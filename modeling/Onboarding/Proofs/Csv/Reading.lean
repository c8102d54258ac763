import Mathlib.Tactic.SplitIfs
import Onboarding.Csv.Row

/-!
# Reading rows octet by octet

What a reader does with each octet, without the places that it keeps for messages.

* Places.  `Alike` readers differ in their places only and give rows of the same fields, so that
  `cells_alike` lets a proof forget where a reader is.
* Steps.  `at` is a reader by what it has open, and one equation for each kind of octet says what is
  left to read and what is given on the way.
-/

namespace Onboarding

namespace Csv

namespace Reader

/-! ## Places -/

/-- The fields of the rows of the rest of the input. -/
def cells (r : Reader) (bytes : Bytes) : List (List Bytes) :=
  (r.rows bytes).map Row.fields

/-- Readers that differ in their places only. -/
structure Alike (r s : Reader) : Prop where
  mode : r.mode = s.mode
  field : r.field = s.field
  fields : r.fields = s.fields

variable {r s : Reader}

theorem cells_cons (r : Reader) (b : UInt8) (rest : Bytes) :
    r.cells (b :: rest) = ((r.feed b).1.map Row.fields).toList ++ (r.feed b).2.cells rest := by
  rw [cells, rows]
  split
  · next h => rw [h]; rfl
  · next h => rw [h]; rfl

theorem feedBare_alike (h : Alike r s) (opens : Bool) (b : UInt8) :
    (r.feedBare opens b).1.map Row.fields = (s.feedBare opens b).1.map Row.fields ∧
      Alike (r.feedBare opens b).2 (s.feedBare opens b).2 := by
  obtain ⟨hmode, hfield, hfields⟩ := h
  simp only [feedBare]
  split_ifs
  · exact ⟨rfl, rfl, rfl, by simp [closeField, hfield, hfields]⟩
  · exact ⟨by simp [row, hfield, hfields], rfl, rfl, rfl⟩
  · exact ⟨rfl, rfl, hfield, hfields⟩
  · exact ⟨rfl, rfl, by simp [push, hfield], hfields⟩

theorem feedHere_alike (h : Alike r s) (b : UInt8) :
    (r.feedHere b).1.map Row.fields = (s.feedHere b).1.map Row.fields ∧
      Alike (r.feedHere b).2 (s.feedHere b).2 := by
  have hbare := feedBare_alike h
  obtain ⟨hmode, hfield, hfields⟩ := h
  simp only [feedHere, hmode]
  cases s.mode with
  | rowStart =>
    dsimp only
    split_ifs
    · exact ⟨rfl, hmode, hfield, hfields⟩
    · exact hbare true b
  | fieldStart => exact hbare true b
  | bare => exact hbare false b
  | quoted =>
    dsimp only
    split_ifs
    · exact ⟨rfl, rfl, hfield, hfields⟩
    · exact ⟨rfl, rfl, by simp [push, hfield], hfields⟩
  | quoteSeen =>
    dsimp only
    split_ifs
    · exact ⟨rfl, rfl, by simp [push, hfield], hfields⟩
    · exact hbare false b

theorem finish_alike (h : Alike r s) :
    r.finish.map Row.fields = s.finish.map Row.fields := by
  rw [finish, finish, h.mode]
  split
  · rfl
  · simp [row, h.field, h.fields]

/-- Places make no difference to the fields. -/
theorem cells_alike (h : Alike r s) (bytes : Bytes) : r.cells bytes = s.cells bytes := by
  induction bytes generalizing r s with
  | nil => exact finish_alike h
  | cons b rest ih =>
    have hplaced : Alike { r with here := r.here.after b } { s with here := s.here.after b } :=
      ⟨h.mode, h.field, h.fields⟩
    have hfeed : (r.feed b).1.map Row.fields = (s.feed b).1.map Row.fields ∧
        Alike (r.feed b).2 (s.feed b).2 := feedHere_alike hplaced b
    rw [cells_cons, cells_cons, hfeed.1, ih hfeed.2]

/-! ## Steps -/

/-- A reader by what it has open. -/
def opened (mode : Mode) (field : Bytes) (fields : List Bytes) : Reader :=
  ⟨mode, field, fields, .origin, .origin⟩

/-- The fields of a row, its open field closed. -/
def closed (field : Bytes) (fields : List Bytes) : List Bytes :=
  (field.reverse :: fields).reverse

variable {mode : Mode} {field : Bytes} {fields : List Bytes} {b : UInt8}

/-- An octet that ends no row. -/
theorem cells_silent {next : Reader} {rest : Bytes}
    (h : (r.feed b).1 = none ∧ Alike (r.feed b).2 next) :
    r.cells (b :: rest) = next.cells rest := by
  rw [cells_cons, cells_alike h.2, h.1]
  rfl

/-- An octet that ends a row. -/
theorem cells_given {next : Reader} {row : List Bytes} {rest : Bytes}
    (h : (r.feed b).1.map Row.fields = some row ∧ Alike (r.feed b).2 next) :
    r.cells (b :: rest) = row :: next.cells rest := by
  rw [cells_cons, cells_alike h.2, h.1]
  rfl

theorem cells_fresh (here : Position) (bytes : Bytes) :
    (fresh here).cells bytes = (opened .rowStart [] []).cells bytes := by
  have halike : Alike (fresh here) (opened .rowStart [] []) := ⟨rfl, rfl, rfl⟩
  exact cells_alike halike bytes

theorem isRowEnd_iff : isRowEnd b ↔ b = 0xA ∨ b = 0xD := by
  simp [isRowEnd]

/-- At the end of input an open row is closed. -/
theorem cells_nil (h : mode ≠ .rowStart) :
    (opened mode field fields).cells [] = [closed field fields] := by
  cases mode with
  | rowStart => exact absurd rfl h
  | fieldStart | bare | quoted | quoteSeen => rfl

/-- A comma outside quotes closes the field. -/
theorem cells_comma (h : mode ≠ .quoted) (rest : Bytes) :
    (opened mode field fields).cells (comma :: rest)
      = (opened .fieldStart [] (field.reverse :: fields)).cells rest := by
  cases mode with
  | quoted => exact absurd rfl h
  | rowStart | fieldStart | bare | quoteSeen => exact cells_silent ⟨rfl, rfl, rfl, rfl⟩

/-- A row end outside quotes closes the row, when there is one. -/
theorem cells_rowEnd (h : mode ≠ .quoted) (hrow : mode ≠ .rowStart) (hb : isRowEnd b)
    (rest : Bytes) :
    (opened mode field fields).cells (b :: rest)
      = closed field fields :: (opened .rowStart [] []).cells rest := by
  rcases isRowEnd_iff.mp hb with rfl | rfl
  · cases mode with
    | quoted => exact absurd rfl h
    | rowStart => exact absurd rfl hrow
    | fieldStart | bare | quoteSeen => exact cells_given ⟨rfl, rfl, rfl, rfl⟩
  · cases mode with
    | quoted => exact absurd rfl h
    | rowStart => exact absurd rfl hrow
    | fieldStart | bare | quoteSeen => exact cells_given ⟨rfl, rfl, rfl, rfl⟩

/-- A row end before a row counts for nothing. -/
theorem cells_blank (hb : isRowEnd b) (rest : Bytes) :
    (opened .rowStart field fields).cells (b :: rest)
      = (opened .rowStart field fields).cells rest := by
  rcases isRowEnd_iff.mp hb with rfl | rfl
  · exact cells_silent ⟨rfl, rfl, rfl, rfl⟩
  · exact cells_silent ⟨rfl, rfl, rfl, rfl⟩

/-- A quote at the start of a field opens it. -/
theorem cells_quote (h : mode = .rowStart ∨ mode = .fieldStart) (rest : Bytes) :
    (opened mode field fields).cells (quote :: rest)
      = (opened .quoted field fields).cells rest := by
  rcases h with rfl | rfl
  · exact cells_silent ⟨rfl, rfl, rfl, rfl⟩
  · exact cells_silent ⟨rfl, rfl, rfl, rfl⟩

/-- Outside quotes an octet without a meaning belongs to the field, and a quote has none in a bare
field. -/
theorem cells_bare (h : mode ≠ .quoted) (hquote : mode = .bare ∨ b ≠ quote) (hcomma : b ≠ comma)
    (hend : ¬ isRowEnd b) (rest : Bytes) :
    (opened mode field fields).cells (b :: rest)
      = (opened .bare (b :: field) fields).cells rest := by
  have hfeed : (opened mode field fields).feed b
      = (none, { opened .bare (b :: field) fields with here := Position.origin.after b }) := by
    cases mode with
    | quoted => exact absurd rfl h
    | bare => simp [feed, feedHere, feedBare, push, opened, hcomma, hend]
    | rowStart | fieldStart | quoteSeen =>
      have hne : b ≠ quote := by simpa using hquote
      simp [feed, feedHere, feedBare, push, opened, hcomma, hend, hne]
  refine cells_silent ?_
  rw [hfeed]
  exact ⟨rfl, rfl, rfl, rfl⟩

/-- Inside quotes every octet but a quote belongs to the field. -/
theorem cells_quoted (h : b ≠ quote) (rest : Bytes) :
    (opened .quoted field fields).cells (b :: rest)
      = (opened .quoted (b :: field) fields).cells rest := by
  have hfeed : (opened .quoted field fields).feed b
      = (none, { opened .quoted (b :: field) fields with here := Position.origin.after b }) :=
    if_neg h
  refine cells_silent ?_
  rw [hfeed]
  exact ⟨rfl, rfl, rfl, rfl⟩

/-- A quote inside quotes may be the end of the quotes. -/
theorem cells_unquote (rest : Bytes) :
    (opened .quoted field fields).cells (quote :: rest)
      = (opened .quoteSeen field fields).cells rest :=
  cells_silent ⟨rfl, rfl, rfl, rfl⟩

/-- A second quote is one of the field. -/
theorem cells_requote (rest : Bytes) :
    (opened .quoteSeen field fields).cells (quote :: rest)
      = (opened .quoted (quote :: field) fields).cells rest :=
  cells_silent ⟨rfl, rfl, rfl, rfl⟩

end Reader

end Csv

end Onboarding
