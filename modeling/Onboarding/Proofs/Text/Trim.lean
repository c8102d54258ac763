import Mathlib.Data.List.DropRight
import Onboarding.Proofs.Text.Utf8
import Onboarding.Text.Blank

/-!
# Trimming

What trimming leaves does not depend on the padding around it, and trimming octets first changes
nothing of the text that is trimmed afterwards.

* Lists.  `exists_trimBy` splits a list into padding and what is trimmed, `trimBy_padded` takes
  padding away, and `trimBy_trimBy` joins two trimmings of which the second takes more.
* Octets.  `trimOctets_encode` carries trimming through UTF-8, where an ASCII blank is one octet of
  its own, and `trimChars_trimBy` says that it makes no difference to the text.
-/

namespace Onboarding

namespace Text

variable {α β : Type} {p q : α → Bool}

/-! ## Lists -/

/-- A list is what trimming leaves, between elements that are trimmed. -/
theorem exists_trimBy (p : α → Bool) (xs : List α) :
    ∃ before after, xs = before ++ trimBy p xs ++ after ∧
      (∀ a ∈ before, p a) ∧ ∀ a ∈ after, p a := by
  refine ⟨xs.takeWhile p, ((xs.dropWhile p).reverse.takeWhile p).reverse, ?_, ?_, ?_⟩
  · have htail : trimBy p xs ++ ((xs.dropWhile p).reverse.takeWhile p).reverse
        = xs.dropWhile p := by
      rw [trimBy, ← List.reverse_append, List.takeWhile_append_dropWhile, List.reverse_reverse]
    rw [List.append_assoc, htail, List.takeWhile_append_dropWhile]
  · exact fun a ha => List.mem_takeWhile_imp ha
  · exact fun a ha => List.mem_takeWhile_imp (List.mem_reverse.mp ha)

/-- Padding is trimmed. -/
theorem trimBy_padded {before after : List α} (hbefore : ∀ a ∈ before, p a)
    (hafter : ∀ a ∈ after, p a) (xs : List α) :
    trimBy p (before ++ xs ++ after) = trimBy p xs := by
  have hreverse : ∀ a ∈ after.reverse, p a := fun a ha => hafter a (List.mem_reverse.mp ha)
  have hnone : after.dropWhile p = [] := List.dropWhile_eq_nil_iff.mpr hafter
  rw [trimBy, List.append_assoc, List.dropWhile_append_of_pos hbefore, List.dropWhile_append]
  split_ifs with hempty
  · rw [hnone, trimBy, List.isEmpty_iff.mp hempty]
  · rw [List.reverse_append, List.dropWhile_append_of_pos hreverse, trimBy]

/-- Trimming again, of more. -/
theorem trimBy_trimBy (h : ∀ a, p a → q a) (xs : List α) :
    trimBy q (trimBy p xs) = trimBy q xs := by
  obtain ⟨before, after, hxs, hbefore, hafter⟩ := exists_trimBy p xs
  conv_rhs => rw [hxs]
  exact (trimBy_padded (fun a ha => h a (hbefore a ha)) (fun a ha => h a (hafter a ha)) _).symm

/-! ## Octets -/

/-- A list of blocks is trimmed block by block, when the elements of a block are all trimmed or
none is. -/
theorem trimBy_flatMap {f : α → List β} {q : β → Bool} (hne : ∀ a, f a ≠ [])
    (hq : ∀ a, ∀ b ∈ f a, q b = p a) (xs : List α) :
    trimBy q (xs.flatMap f) = (trimBy p xs).flatMap f := by
  have hdrop : ∀ {g : α → List β} (_ : ∀ a, g a ≠ []) (_ : ∀ a, ∀ b ∈ g a, q b = p a)
      (ys : List α), (ys.flatMap g).dropWhile q = (ys.dropWhile p).flatMap g := by
    intro g hne hq ys
    induction ys with
    | nil => rfl
    | cons a ys ih =>
      rw [List.flatMap_cons]
      cases hp : p a with
      | true =>
        have hall : ∀ b ∈ g a, q b := fun b hb => (hq a b hb).trans hp
        rw [List.dropWhile_append_of_pos hall, ih, List.dropWhile_cons_of_pos hp]
      | false =>
        obtain ⟨b, bs, hg⟩ := List.exists_cons_of_ne_nil (hne a)
        have hb : ¬ q b := by
          rw [hq a b (by simp [hg]), hp]
          exact Bool.false_ne_true
        rw [List.dropWhile_cons_of_neg (by simp [hp]), List.flatMap_cons, hg, List.cons_append,
          List.dropWhile_cons_of_neg hb]
  rw [trimBy, hdrop hne hq, List.reverse_flatMap, hdrop, List.reverse_flatMap, trimBy]
  · congr 1
    funext a
    simp
  · intro a h
    exact hne a (List.reverse_eq_nil_iff.mp h)
  · intro a b hb
    exact hq a b (List.mem_reverse.mp hb)

/-- The ASCII blanks as characters. -/
def isBlankAscii (c : Char) : Bool :=
  c == ' ' || c == '\t' || c == '\n' || c == '\x0c' || c == '\r'

theorem isBlank_of_ascii {c : Char} (h : isBlankAscii c) : isBlank c := by
  simp only [isBlankAscii, Bool.or_eq_true, beq_iff_eq] at h
  rcases h with (((rfl | rfl) | rfl) | rfl) | rfl <;> rfl

/-- Whether an octet of a character is trimmed is up to the character. -/
theorem isBlankOctet_of_mem (c : Char) (b : UInt8) (hb : b ∈ String.utf8EncodeChar c) :
    isBlankOctet b = isBlankAscii c := by
  have hspace : b = 0x20 ↔ c = ' ' := Utf8.octet_eq_iff hb ' ' (by decide)
  have htab : b = 0x9 ↔ c = '\t' := Utf8.octet_eq_iff hb '\t' (by decide)
  have hfeed : b = 0xA ↔ c = '\n' := Utf8.octet_eq_iff hb '\n' (by decide)
  have hform : b = 0xC ↔ c = '\x0c' := Utf8.octet_eq_iff hb '\x0c' (by decide)
  have hreturn : b = 0xD ↔ c = '\r' := Utf8.octet_eq_iff hb '\r' (by decide)
  rw [Bool.eq_iff_iff]
  simp only [isBlankOctet, isBlankAscii, Bool.or_eq_true, beq_iff_eq, hspace, htab, hfeed, hform,
    hreturn]

/-- Written text is trimmed of its ASCII blanks. -/
theorem trimOctets_encode (text : List Char) :
    trimOctets (Utf8.encode text) = Utf8.encode (trimBy isBlankAscii text) :=
  trimBy_flatMap (fun _ => String.utf8EncodeChar_ne_nil) isBlankOctet_of_mem text

/-- Text that was trimmed of its ASCII blanks is trimmed to the same end. -/
theorem trimChars_trimBy (text : List Char) :
    trimChars (trimBy isBlankAscii text) = trimChars text :=
  trimBy_trimBy (fun _ => isBlank_of_ascii) text

end Text

end Onboarding
