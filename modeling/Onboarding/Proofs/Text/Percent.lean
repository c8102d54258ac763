import Onboarding.Proofs.Text.Utf8
import Onboarding.Text.Form

/-!
# Encoded text

An encoder writes the octets that stand for themselves, and for the rest signs of its own.

* What is left out.  Any other sign is missing from what it writes, whatever the text was
  (`Percent.not_mem_encode`, `Form.not_mem_encodeText`), and no sign is there that the text does not
  hold, apart from those of escapes (`Percent.mem_encode`).
* Reading back.  Where the percent sign itself is escaped, the octets of the text are read back
  (`Percent.decode_encode`), so that no two texts are written alike.
-/

namespace Onboarding

namespace Percent

/-- The character of an ASCII octet has the value of the octet. -/
theorem toNat_char_of_octet {b : UInt8} (h : b < 0x80) : (Char.ofNat b.toNat).toNat = b.toNat := by
  have hsmall : b.toNat < 0x80 := UInt8.lt_iff_toNat_lt.mp h
  have hascii : ∀ n < 0x80, (Char.ofNat n).toNat = n := by decide
  exact hascii _ hsmall

/-- An ASCII octet that is written as itself can be had back from its character. -/
theorem octet_of_char {b : UInt8} (h : b < 0x80) :
    UInt8.ofNat (Char.ofNat b.toNat).toNat = b := by
  rw [toNat_char_of_octet h, UInt8.ofNat_toNat]

/-- A sign that is no percent sign, letter or digit does not come from an escape. -/
theorem not_mem_escape {c : Char} (hmark : c ≠ '%') (halnum : c.isAlphanum = false) (b : UInt8) :
    c ∉ escape b := by
  have hdigit : ∀ n < 16, c ≠ Numeral.digitUpper n := by
    intro n hn hc
    have hall : ∀ n < 16, (Numeral.digitUpper n).isAlphanum = true := by decide
    rw [hc, hall n hn] at halnum
    cases halnum
  have hoctet := b.toNat_lt
  intro hc
  simp only [escape, List.mem_cons, List.not_mem_nil, or_false] at hc
  rcases hc with hc | hc | hc
  · exact hmark hc
  · exact hdigit _ (by omega) hc
  · exact hdigit _ (by omega) hc

/-- A sign of the set is missing from encoded text. -/
theorem not_mem_encode {e : Escapes} {c : Char} (he : e (UInt8.ofNat c.toNat) = true)
    (hmark : c ≠ '%') (halnum : c.isAlphanum = false) (text : List Char) :
    c ∉ encode e text := by
  rw [encode, List.mem_flatMap]
  rintro ⟨b, -, hc⟩
  rw [encodeOctet] at hc
  split at hc
  · next hplain =>
    obtain rfl := List.mem_singleton.mp hc
    rw [octet_of_char hplain.1] at he
    simp [he] at hplain
  · exact not_mem_escape hmark halnum b hc

/-- What encoded text holds is in the text, or comes from an escape. -/
theorem mem_encode {e : Escapes} {text : List Char} {c : Char} (h : c ∈ encode e text) :
    c ∈ text ∨ c = '%' ∨ c.isAlphanum = true := by
  rw [encode, List.mem_flatMap] at h
  obtain ⟨b, hb, hc⟩ := h
  rw [encodeOctet] at hc
  split at hc
  · next hplain =>
    obtain rfl := List.mem_singleton.mp hc
    refine .inl ((Utf8.octet_mem_encode_iff ?_ text).mp ?_)
    · rw [toNat_char_of_octet hplain.1]
      exact UInt8.lt_iff_toNat_lt.mp hplain.1
    · rwa [octet_of_char hplain.1]
  · by_contra hnone
    obtain ⟨-, hmark, halnum⟩ : c ∉ text ∧ c ≠ '%' ∧ c.isAlphanum = false := by simpa using hnone
    exact not_mem_escape hmark halnum b hc

/-! ## Reading back -/

/-- An octet that is no percent sign stands for itself. -/
theorem decode_cons_of_ne {b : UInt8} (h : b ≠ 0x25) (rest : Bytes) :
    decode (b :: rest) = b :: decode rest := by
  match rest with
  | [] => rfl
  | [_] => rfl
  | high :: low :: rest =>
    have hnone : unescape? b high low = none := by
      rw [unescape?]
      split
      · exact if_neg h
      · rfl
    rw [decode, hnone]

/-- A digit is ASCII and reads as its value. -/
theorem digitUpper_read {d : Nat} (h : d < 16) :
    (Numeral.digitUpper d).toNat < 0x80 ∧
      Numeral.digitValue? 16 (Numeral.digitUpper d) = some d := by
  have hall : ∀ d < 16, (Numeral.digitUpper d).toNat < 0x80 ∧
      Numeral.digitValue? 16 (Numeral.digitUpper d) = some d := by decide
  exact hall d h

/-- An ASCII character is had back from its octet. -/
theorem char_of_octet {c : Char} (h : c.toNat < 0x80) :
    Char.ofNat (UInt8.ofNat c.toNat).toNat = c := by
  have hoctet : (UInt8.ofNat c.toNat).toNat = c.toNat := Utf8.toNat_octet (by omega)
  rw [hoctet, Char.ofNat_toNat]

/-- An escape reads as its octet. -/
theorem decode_escape (b : UInt8) (rest : Bytes) :
    decode (Utf8.encode (escape b) ++ rest) = b :: decode rest := by
  have hb := b.toNat_lt
  obtain ⟨hhigh, hhighValue⟩ := digitUpper_read (d := b.toNat / 16) (by omega)
  obtain ⟨hlow, hlowValue⟩ := digitUpper_read (d := b.toNat % 16) (by omega)
  have hwritten : Utf8.encode (escape b)
      = [0x25, UInt8.ofNat (Numeral.digitUpper (b.toNat / 16)).toNat,
        UInt8.ofNat (Numeral.digitUpper (b.toNat % 16)).toNat] := by
    rw [escape, Utf8.encode_cons, Utf8.encode_cons, Utf8.encode_cons,
      Utf8.encodeChar_ascii hhigh, Utf8.encodeChar_ascii hlow]
    rfl
  have hvalue : UInt8.ofNat (b.toNat / 16 * 16 + b.toNat % 16) = b := by
    rw [Nat.div_add_mod', UInt8.ofNat_toNat]
  have hread : unescape? 0x25 (UInt8.ofNat (Numeral.digitUpper (b.toNat / 16)).toNat)
      (UInt8.ofNat (Numeral.digitUpper (b.toNat % 16)).toNat) = some b := by
    rw [unescape?, char_of_octet hhigh, char_of_octet hlow, hhighValue, hlowValue]
    simp only [if_true, hvalue]
  rw [hwritten]
  simp only [List.cons_append, List.nil_append]
  rw [decode, hread]

/-- An ASCII octet that stands for itself is written as one octet. -/
theorem encode_char_of_octet {b : UInt8} (h : b < 0x80) : Utf8.encode [Char.ofNat b.toNat] = [b] := by
  have hascii : (Char.ofNat b.toNat).toNat < 0x80 := by
    rw [toNat_char_of_octet h]
    exact UInt8.lt_iff_toNat_lt.mp h
  rw [Utf8.encode_cons, Utf8.encodeChar_ascii hascii, octet_of_char h]
  rfl

/-- Where the percent sign is escaped, what is written for an octet reads as that octet. -/
theorem decode_encodeOctet {e : Escapes} (he : e 0x25 = true) (b : UInt8) (rest : Bytes) :
    decode (Utf8.encode (encodeOctet e b) ++ rest) = b :: decode rest := by
  rw [encodeOctet]
  split
  · next hplain =>
    have hmark : b ≠ 0x25 := by
      rintro rfl
      simp [he] at hplain
    rw [encode_char_of_octet hplain.1, List.singleton_append, decode_cons_of_ne hmark]
  · exact decode_escape b rest

/-- Where the percent sign is escaped, encoded text is read back. -/
theorem decode_encode {e : Escapes} (he : e 0x25 = true) (text : List Char) :
    decode (Utf8.encode (encode e text)) = Utf8.encode text := by
  have hoctets : ∀ octets : Bytes,
      decode (Utf8.encode (octets.flatMap (encodeOctet e))) = octets := by
    intro octets
    induction octets with
    | nil => rfl
    | cons b rest ih =>
      rw [List.flatMap_cons, Utf8.encode_append, decode_encodeOctet he, ih]
  exact hoctets _

/-- No two texts are encoded alike. -/
theorem encode_injective {e : Escapes} (he : e 0x25 = true) : Function.Injective (encode e) := by
  intro text text' h
  have hoctets : Utf8.encode text = Utf8.encode text' := by
    rw [← decode_encode he text, h, decode_encode he]
  exact Utf8.encode_injective hoctets

end Percent

namespace Form

/-- Octets that stand for themselves are ASCII. -/
theorem lt_of_isPlain {b : UInt8} (h : isPlain b = true) : b < 0x80 := by
  simp only [isPlain, Bool.or_eq_true, Bool.and_eq_true, decide_eq_true_eq, beq_iff_eq] at h
  rcases h with ((((((⟨-, h⟩ | ⟨-, h⟩) | ⟨-, h⟩) | rfl) | rfl) | rfl) | rfl)
  · exact UInt8.lt_of_le_of_lt h (by decide)
  · exact UInt8.lt_of_le_of_lt h (by decide)
  · exact UInt8.lt_of_le_of_lt h (by decide)
  · decide
  · decide
  · decide
  · decide

/-- A sign that is escaped is missing from a name or a value. -/
theorem not_mem_encodeText {c : Char} (hplain : isPlain (UInt8.ofNat c.toNat) = false)
    (hspace : c ≠ '+') (hmark : c ≠ '%') (halnum : c.isAlphanum = false) (s : String) :
    c ∉ encodeText s := by
  rw [encodeText, List.mem_flatMap]
  rintro ⟨b, -, hc⟩
  rw [encodeOctet] at hc
  split at hc
  · exact hspace (List.mem_singleton.mp hc)
  · split at hc
    · next hb =>
      obtain rfl := List.mem_singleton.mp hc
      rw [Percent.octet_of_char (lt_of_isPlain hb), hb] at hplain
      cases hplain
    · exact Percent.not_mem_escape hmark halnum b hc

/-- The signs that separate pairs are, and so is the one that closes the query. -/
theorem sign_not_mem_encodeText {sign : Char} (h : sign ∈ ['&', '=', '#']) (s : String) :
    sign ∉ encodeText s := by
  have hcases : sign = '&' ∨ sign = '=' ∨ sign = '#' := by simpa using h
  rcases hcases with rfl | rfl | rfl <;>
    exact not_mem_encodeText (by decide) (by decide) (by decide) (by decide) s

end Form

end Onboarding
