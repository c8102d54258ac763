import Mathlib.Data.List.Basic
import Onboarding.Proofs.Text.Utf8
import Onboarding.Text.Split

/-!
# Cutting

The pieces between separators, and the pieces of written text.

* Pieces.  `pieces_sep` and `pieces_other` cut off one element, `pieces_append` puts elements in
  front of the first piece, `pieces_append_cons` cuts at a separator anywhere, and `not_sep_of_mem`
  says that no piece holds one.
* Joining.  `joined_pieces` and `pieces_joined`: cutting and joining undo each other.
* Blocks.  `pieces_flatMap`: a list of blocks is cut where the elements are, when a separator is a
  block of one element; `pieces_encode` is the case of text in UTF-8, cut at ASCII characters.
-/

namespace Onboarding

namespace Split

variable {α β : Type} {p : α → Bool} {q : β → Bool}

/-! ## Pieces -/

theorem pieces_ne_nil (p : α → Bool) (xs : List α) : pieces p xs ≠ [] := by
  cases xs with
  | nil => simp [pieces]
  | cons a xs =>
    rw [pieces]
    split
    · simp
    · split <;> simp

theorem pieces_sep {a : α} (h : p a) (xs : List α) : pieces p (a :: xs) = [] :: pieces p xs :=
  if_pos h

/-- What is no separator belongs to the first piece. -/
theorem pieces_other {a : α} (h : ¬ p a) {xs piece : List α} {more : List (List α)}
    (hxs : pieces p xs = piece :: more) : pieces p (a :: xs) = (a :: piece) :: more := by
  rw [pieces, if_neg h, hxs]

theorem pieces_append {front : List α} (h : ∀ a ∈ front, ¬ p a) {xs piece : List α}
    {more : List (List α)} (hxs : pieces p xs = piece :: more) :
    pieces p (front ++ xs) = (front ++ piece) :: more := by
  induction front with
  | nil => exact hxs
  | cons a front ih =>
    obtain ⟨ha, hfront⟩ := List.forall_mem_cons.mp h
    exact pieces_other ha (ih hfront)

/-- A list without separators is one piece. -/
theorem pieces_of_none {xs : List α} (h : ∀ a ∈ xs, ¬ p a) : pieces p xs = [xs] := by
  have hpieces : pieces p (xs ++ []) = [xs ++ []] := pieces_append h rfl
  rwa [List.append_nil] at hpieces

/-- The pieces on both sides of a separator. -/
theorem pieces_append_cons {a : α} (h : p a) (xs ys : List α) :
    pieces p (xs ++ a :: ys) = pieces p xs ++ pieces p ys := by
  induction xs with
  | nil => exact pieces_sep h ys
  | cons x xs ih =>
    by_cases hx : p x
    · rw [List.cons_append, pieces_sep hx, pieces_sep hx, ih, List.cons_append]
    · obtain ⟨first, more, hxs⟩ := List.exists_cons_of_ne_nil (pieces_ne_nil p xs)
      rw [hxs, List.cons_append] at ih
      rw [List.cons_append, pieces_other hx ih, pieces_other hx hxs, List.cons_append]

/-- The elements of a piece are elements of the list, and no separators. -/
theorem not_sep_of_mem {xs piece : List α} (hpiece : piece ∈ pieces p xs) :
    ∀ a ∈ piece, a ∈ xs ∧ ¬ p a := by
  induction xs generalizing piece with
  | nil =>
    obtain rfl := List.mem_singleton.mp hpiece
    exact nofun
  | cons x xs ih =>
    have hrest : ∀ {piece : List α}, piece ∈ pieces p xs → ∀ a ∈ piece, a ∈ x :: xs ∧ ¬ p a :=
      fun hpiece a ha => (ih hpiece a ha).imp_left (List.mem_cons_of_mem x)
    by_cases hx : p x
    · rw [pieces_sep hx] at hpiece
      rcases List.mem_cons.mp hpiece with rfl | hpiece
      · exact nofun
      · exact hrest hpiece
    · obtain ⟨first, more, hxs⟩ := List.exists_cons_of_ne_nil (pieces_ne_nil p xs)
      rw [pieces_other hx hxs] at hpiece
      rcases List.mem_cons.mp hpiece with rfl | hpiece
      · have hfirst := hrest (hxs ▸ List.mem_cons_self)
        exact List.forall_mem_cons.mpr ⟨⟨List.mem_cons_self, hx⟩, hfirst⟩
      · exact hrest (hxs ▸ List.mem_cons_of_mem first hpiece)

/-! ## Joining -/

section

variable {separator : α}

theorem joined_cons {pieces : List (List α)} (h : pieces ≠ []) (piece : List α) :
    joined separator (piece :: pieces) = piece ++ separator :: joined separator pieces := by
  cases pieces with
  | nil => exact absurd rfl h
  | cons next more => rfl

/-- Fewer pieces from the front are written as the front of the whole. -/
theorem prefix_joined {pieces all : List (List α)} (h : pieces <+: all) :
    joined separator pieces <+: joined separator all := by
  induction pieces generalizing all with
  | nil => exact List.nil_prefix
  | cons piece pieces ih =>
    obtain ⟨more, rfl⟩ := h
    by_cases hpieces : pieces = []
    · subst hpieces
      cases more with
      | nil => exact List.prefix_refl _
      | cons next more => exact List.prefix_append piece _
    · have hall : pieces ++ more ≠ [] := by simp [hpieces]
      rw [List.cons_append, joined_cons hpieces, joined_cons hall]
      exact (List.prefix_append_right_inj piece).mpr
        (List.cons_prefix_cons.mpr ⟨rfl, ih (List.prefix_append pieces more)⟩)

variable [BEq α] [LawfulBEq α]

/-- The pieces of a list are put together to the list. -/
theorem joined_pieces (xs : List α) : joined separator (pieces (· == separator) xs) = xs := by
  induction xs with
  | nil => rfl
  | cons a xs ih =>
    by_cases ha : (a == separator) = true
    · rw [pieces_sep (p := (· == separator)) ha, joined_cons (pieces_ne_nil _ xs), ih, beq_iff_eq.mp ha]
      rfl
    · obtain ⟨first, more, hxs⟩ := List.exists_cons_of_ne_nil (pieces_ne_nil (· == separator) xs)
      rw [hxs] at ih
      rw [pieces_other (p := (· == separator)) ha hxs]
      cases more with
      | nil => exact congrArg (a :: ·) ih
      | cons next rest => exact congrArg (a :: ·) ih

/-- Pieces without a separator are cut as they were put together. -/
theorem pieces_joined {all : List (List α)} (hne : all ≠ [])
    (h : ∀ piece ∈ all, separator ∉ piece) : pieces (· == separator) (joined separator all) = all := by
  induction all with
  | nil => exact absurd rfl hne
  | cons piece rest ih =>
    obtain ⟨hpiece, hrest⟩ := List.forall_mem_cons.mp h
    have hnone : ∀ a ∈ piece, ¬ (a == separator) = true := by
      intro a ha hsep
      exact hpiece (beq_iff_eq.mp hsep ▸ ha)
    by_cases hempty : rest = []
    · subst hempty
      exact pieces_of_none hnone
    · have hsep : (separator == separator) = true := beq_self_eq_true separator
      rw [joined_cons hempty, pieces_append_cons (p := (· == separator)) hsep, pieces_of_none hnone,
        ih hempty hrest, List.singleton_append]

end

/-! ## Blocks -/

/-- A list of blocks is cut where its elements are, when the block of a separator is one separator
and the block of any other element holds none. -/
theorem pieces_flatMap {f : α → List β} (hone : ∀ a, p a → ∃ b, f a = [b])
    (hq : ∀ a, ∀ b ∈ f a, q b = p a) (xs : List α) :
    pieces q (xs.flatMap f) = (pieces p xs).map (List.flatMap f) := by
  induction xs with
  | nil => rfl
  | cons a xs ih =>
    rw [List.flatMap_cons]
    by_cases ha : p a
    · obtain ⟨b, hb⟩ := hone a ha
      have hsep : q b := by
        rw [hq a b (by simp [hb])]
        exact ha
      rw [hb, List.singleton_append, pieces_sep hsep, pieces_sep ha, ih]
      rfl
    · have hfront : ∀ b ∈ f a, ¬ q b := fun b hb => by rwa [hq a b hb]
      obtain ⟨first, more, hxs⟩ := List.exists_cons_of_ne_nil (pieces_ne_nil p xs)
      rw [hxs, List.map_cons] at ih
      rw [pieces_append hfront ih, pieces_other ha hxs]
      rfl

/-- Text in UTF-8 is cut at the octets of the ASCII characters at which the text is. -/
theorem pieces_encode {p : Char → Bool} {q : UInt8 → Bool} (hascii : ∀ c, p c → c.toNat < 0x80)
    (hq : ∀ c, ∀ b ∈ String.utf8EncodeChar c, q b = p c) (text : List Char) :
    pieces q (Utf8.encode text) = (pieces p text).map Utf8.encode :=
  pieces_flatMap (fun c hc => ⟨_, Utf8.encodeChar_ascii (hascii c hc)⟩) hq text

end Split

end Onboarding
