import Onboarding.Csv.Written
import Onboarding.Proofs.Csv.Reading

/-!
# Written rows

Rows of cells are read back as they were written.  Whether the quotes of a cell have a meaning is
decided by the octet that the cell begins with: behind padding they are octets like others.

* Cells.  `Cell.Opens` cells begin with their quotes, and `Cell.field` is what is read of a cell.  A
  cell that `Reads` holds no octet outside quotes that closes it.
* One cell.  `cells_content` reads what stands between quotes, `cells_run` octets outside quotes,
  and `cells_cell` a cell.
* One row.  `cells_writeCells` reads the cells up to the last one, which stays open until the row
  ends.
* All rows.  `rows_written` carries this along the rows; a row without octets is a blank line.
-/

namespace Onboarding

namespace Csv

/-! ## Cells -/

/-- Octets that can stand outside quotes: none closes the field, and the first one opens no quotes.
-/
structure Bare (octets : Bytes) : Prop where
  unopened : octets.head? ≠ some quote
  unclosed : ∀ b ∈ octets, b ≠ comma ∧ ¬ isRowEnd b

theorem bare_iff {octets : Bytes} :
    Bare octets ↔ octets.head? ≠ some quote ∧
      octets.all (fun b => b != comma && !isRowEnd b) = true := by
  constructor
  · rintro ⟨hfirst, hall⟩
    exact ⟨hfirst, by simpa using hall⟩
  · rintro ⟨hfirst, hall⟩
    exact ⟨hfirst, by simpa using hall⟩

instance (octets : Bytes) : Decidable (Bare octets) :=
  decidable_of_iff _ bare_iff.symm

theorem Bare.nil : Bare [] :=
  ⟨nofun, nofun⟩

namespace Cell

/-- The cell begins with its quotes. -/
def Opens (c : Cell) : Prop :=
  c.quoted = true ∧ c.before = []

instance (c : Cell) : Decidable c.Opens :=
  inferInstanceAs (Decidable (c.quoted = true ∧ c.before = []))

/-- What is read of a cell: the content and what follows it when the cell begins with its quotes,
and else all that is written, quotes included. -/
def field (c : Cell) : Bytes :=
  if c.Opens then c.content ++ c.after else c.write

/-- Outside its quotes nothing in the cell has a meaning. -/
structure Reads (c : Cell) : Prop where
  opens : c.Opens → Bare c.after
  bare : ¬ c.Opens → Bare c.write

end Cell

/-- The fields of rows as they are read back; a row without octets is none. -/
def fieldsOf (rows : List (List Cell)) : List (List Bytes) :=
  (rows.filter fun cells => !(writeCells cells).isEmpty).map (List.map Cell.field)

theorem fieldsOf_append (rows more : List (List Cell)) :
    fieldsOf (rows ++ more) = fieldsOf rows ++ fieldsOf more := by
  rw [fieldsOf, List.filter_append, List.map_append]
  rfl

theorem fieldsOf_blank {cells : List Cell} (h : writeCells cells = []) : fieldsOf [cells] = [] := by
  simp [fieldsOf, h]

theorem fieldsOf_filled {cells : List Cell} (h : writeCells cells ≠ []) :
    fieldsOf [cells] = [cells.map Cell.field] := by
  simp [fieldsOf, h]

open Reader

variable {mode : Mode}

/-! ## One cell -/

/-- The content of a cell is read with its doubled quotes taken for one. -/
theorem cells_content (content : Bytes) (field : Bytes) (fields : List Bytes) (rest : Bytes) :
    (opened .quoted field fields).cells
        (content.flatMap (fun b => if b = quote then [quote, quote] else [b]) ++ rest)
      = (opened .quoted (content.reverse ++ field) fields).cells rest := by
  induction content generalizing field with
  | nil => rfl
  | cons b content ih =>
    rw [List.flatMap_cons, List.append_assoc, List.reverse_cons, List.append_assoc]
    by_cases hb : b = quote
    · rw [if_pos hb, hb, List.cons_append, List.cons_append, cells_unquote, cells_requote]
      exact ih _
    · rw [if_neg hb, List.cons_append, cells_quoted hb]
      exact ih _

/-- Quotes at the start of a field are read with what is between them. -/
theorem cells_quoteContent (h : mode = .rowStart ∨ mode = .fieldStart) (content : Bytes)
    (fields : List Bytes) (rest : Bytes) :
    (opened mode [] fields).cells (quoteContent content ++ rest)
      = (opened .quoteSeen content.reverse fields).cells rest := by
  rw [quoteContent, List.cons_append, List.cons_append, List.append_assoc, cells_quote h,
    cells_content, List.append_nil, List.singleton_append, cells_unquote]

/-- In a bare field octets that do not close it belong to it, quotes as well. -/
theorem cells_unclosed {octets : Bytes} (h : ∀ b ∈ octets, b ≠ comma ∧ ¬ isRowEnd b) (field : Bytes)
    (fields : List Bytes) (rest : Bytes) :
    (opened .bare field fields).cells (octets ++ rest)
      = (opened .bare (octets.reverse ++ field) fields).cells rest := by
  have hmode : Mode.bare ≠ .quoted := nofun
  induction octets generalizing field with
  | nil => rfl
  | cons b octets ih =>
    obtain ⟨hb, hrest⟩ := List.forall_mem_cons.mp h
    rw [List.cons_append, cells_bare hmode (.inl rfl) hb.1 hb.2, ih hrest, List.reverse_cons,
      List.append_assoc, List.singleton_append]

/-- Octets outside quotes belong to the field, and leave it a bare one. -/
theorem cells_run (h : mode ≠ .quoted) {octets : Bytes} (hbare : Bare octets) (hne : octets ≠ [])
    (field : Bytes) (fields : List Bytes) (rest : Bytes) :
    (opened mode field fields).cells (octets ++ rest)
      = (opened .bare (octets.reverse ++ field) fields).cells rest := by
  obtain ⟨b, more, rfl⟩ := List.exists_cons_of_ne_nil hne
  have hquote : b ≠ quote := by simpa using hbare.unopened
  obtain ⟨hb, hmore⟩ := List.forall_mem_cons.mp hbare.unclosed
  rw [List.cons_append, cells_bare h (.inr hquote) hb.1 hb.2, cells_unclosed hmore,
    List.reverse_cons, List.append_assoc, List.singleton_append]

/-- A cell is read with its field left open.  Only a cell without octets leaves a row unopened. -/
theorem cells_cell (h : mode = .rowStart ∨ mode = .fieldStart) {c : Cell} (hc : c.Reads)
    (fields : List Bytes) :
    ∃ next, next ≠ .quoted ∧ (next = .rowStart → mode = .rowStart ∧ c.write = []) ∧
      ∀ rest, (opened mode [] fields).cells (c.write ++ rest)
        = (opened next c.field.reverse fields).cells rest := by
  have hmode : mode ≠ .quoted := by rcases h with rfl | rfl <;> exact nofun
  by_cases hopens : c.Opens
  · have hwrite : c.write = quoteContent c.content ++ c.after := by
      rw [Cell.write, hopens.2, hopens.1, if_pos rfl, List.nil_append]
    rw [Cell.field, if_pos hopens, hwrite]
    by_cases hafter : c.after = []
    · refine ⟨.quoteSeen, nofun, nofun, fun rest => ?_⟩
      rw [hafter, List.append_nil, List.append_nil, cells_quoteContent h]
    · have hseen : Mode.quoteSeen ≠ .quoted := nofun
      refine ⟨.bare, nofun, nofun, fun rest => ?_⟩
      rw [List.append_assoc, cells_quoteContent h, cells_run hseen (hc.opens hopens) hafter,
        List.reverse_append]
  · rw [Cell.field, if_neg hopens]
    by_cases hwrite : c.write = []
    · refine ⟨mode, hmode, fun hstart => ⟨hstart, hwrite⟩, fun rest => ?_⟩
      rw [hwrite]
      rfl
    · refine ⟨.bare, nofun, nofun, fun rest => ?_⟩
      rw [cells_run hmode (hc.bare hopens) hwrite, List.append_nil]

/-! ## One row -/

/-- The cells of a row are read with the last field left open, and all fields in order. -/
theorem cells_writeCells (h : mode = .rowStart ∨ mode = .fieldStart) {cells : List Cell}
    (hne : cells ≠ []) (hreads : ∀ c ∈ cells, c.Reads) (fields : List Bytes) :
    ∃ next field done, next ≠ .quoted ∧
      (next = .rowStart → mode = .rowStart ∧ writeCells cells = []) ∧
      closed field done = fields.reverse ++ cells.map Cell.field ∧
      ∀ rest, (opened mode [] fields).cells (writeCells cells ++ rest)
        = (opened next field done).cells rest := by
  induction cells generalizing mode fields with
  | nil => exact absurd rfl hne
  | cons c more ih =>
    obtain ⟨hc, hmore⟩ := List.forall_mem_cons.mp hreads
    obtain ⟨next, hnext, hstart, hcell⟩ := cells_cell h hc fields
    cases more with
    | nil =>
      refine ⟨next, c.field.reverse, fields, hnext, hstart, ?_, hcell⟩
      simp [closed]
    | cons d more =>
      obtain ⟨last, field, done, hlast, hopen, hclosed, hrest⟩ :=
        ih (.inr rfl) (List.cons_ne_nil d more) hmore (c.field :: fields)
      refine ⟨last, field, done, hlast, fun hrow => ?_, ?_, fun rest => ?_⟩
      · cases (hopen hrow).1
      · rw [hclosed, List.reverse_cons, List.append_assoc, List.singleton_append]
        rfl
      · have hwrite : writeCells (c :: d :: more) = c.write ++ comma :: writeCells (d :: more) :=
          rfl
        rw [hwrite, List.append_assoc, hcell, List.cons_append, cells_comma hnext,
          List.reverse_reverse, hrest]

/-- A row end after a row closes it. -/
theorem cells_write_rowEnd (h : mode ≠ .quoted) (hrow : mode ≠ .rowStart) (field : Bytes)
    (fields : List Bytes) (rowEnd : RowEnd) (rest : Bytes) :
    (opened mode field fields).cells (rowEnd.write ++ rest)
      = closed field fields :: (opened .rowStart [] []).cells rest := by
  cases rowEnd with
  | lineFeed | carriageReturn => exact cells_rowEnd h hrow (by decide) rest
  | both =>
    rw [RowEnd.write, List.cons_append, List.cons_append, cells_rowEnd h hrow (by decide),
      cells_blank (by decide)]
    rfl

/-- A row end without a row counts for nothing. -/
theorem cells_write_blank (rowEnd : RowEnd) (rest : Bytes) :
    (opened .rowStart [] []).cells (rowEnd.write ++ rest)
      = (opened .rowStart [] []).cells rest := by
  cases rowEnd with
  | lineFeed | carriageReturn => exact cells_blank (by decide) rest
  | both =>
    rw [RowEnd.write, List.cons_append, List.cons_append, cells_blank (by decide),
      cells_blank (by decide)]
    rfl

/-- A row that has octets is read with its last field open, which closes with the row. -/
theorem cells_filled {cells : List Cell} (hfilled : writeCells cells ≠ [])
    (hreads : ∀ c ∈ cells, c.Reads) :
    ∃ next field done, next ≠ .quoted ∧ next ≠ .rowStart ∧
      closed field done = cells.map Cell.field ∧
      ∀ rest, (opened .rowStart [] []).cells (writeCells cells ++ rest)
        = (opened next field done).cells rest := by
  have hne : cells ≠ [] := by
    rintro rfl
    exact hfilled rfl
  obtain ⟨next, field, done, hnext, hstart, hclosed, hcells⟩ :=
    cells_writeCells (.inl rfl) hne hreads []
  exact ⟨next, field, done, hnext, fun hrow => hfilled (hstart hrow).2, hclosed, hcells⟩

/-- A row with its end is read back, unless it is a blank line. -/
theorem cells_row {cells : List Cell} (hreads : ∀ c ∈ cells, c.Reads) (rowEnd : RowEnd)
    (rest : Bytes) :
    (opened .rowStart [] []).cells (writeCells cells ++ rowEnd.write ++ rest)
      = fieldsOf [cells] ++ (opened .rowStart [] []).cells rest := by
  by_cases hblank : writeCells cells = []
  · rw [hblank, fieldsOf_blank hblank]
    exact cells_write_blank rowEnd rest
  · obtain ⟨next, field, done, hnext, hrow, hclosed, hcells⟩ := cells_filled hblank hreads
    rw [List.append_assoc, hcells, cells_write_rowEnd hnext hrow, hclosed, fieldsOf_filled hblank]
    rfl

/-- A row that the input ends with is read back, unless it is blank. -/
theorem cells_lastRow {cells : List Cell} (hreads : ∀ c ∈ cells, c.Reads) :
    (opened .rowStart [] []).cells (writeCells cells) = fieldsOf [cells] := by
  by_cases hblank : writeCells cells = []
  · rw [hblank, fieldsOf_blank hblank]
    rfl
  · obtain ⟨next, field, done, -, hrow, hclosed, hcells⟩ := cells_filled hblank hreads
    have hend := hcells []
    rw [List.append_nil] at hend
    rw [hend, cells_nil hrow, hclosed, fieldsOf_filled hblank]

/-! ## All rows -/

theorem cells_writeRows {rows : List (List Cell × RowEnd)} {last : Option (List Cell)}
    (hreads : ∀ cells ∈ rows.map Prod.fst ++ last.toList, ∀ c ∈ cells, c.Reads) :
    (opened .rowStart [] []).cells (writeRows rows last)
      = fieldsOf (rows.map Prod.fst ++ last.toList) := by
  induction rows with
  | nil =>
    cases last with
    | none => rfl
    | some cells => exact cells_lastRow (hreads cells (by simp))
  | cons row rows ih =>
    rw [List.map_cons, List.cons_append] at hreads
    obtain ⟨hrow, hrows⟩ := List.forall_mem_cons.mp hreads
    rw [writeRows, cells_row hrow, ih hrows, ← fieldsOf_append]
    rfl

/-- The byte order mark. -/
def mark : Bytes :=
  [0xEF, 0xBB, 0xBF]

/-- A byte order mark in front is skipped. -/
theorem rows_mark (bytes : Bytes) :
    (rows (mark ++ bytes)).map Row.fields = (opened .rowStart [] []).cells bytes :=
  cells_fresh ⟨3, 1, 0⟩ bytes

/-- Input that does not begin with a byte order mark is read from its first octet on. -/
theorem rows_unmarked {bytes : Bytes} (h : ¬ mark <+: bytes) :
    (rows bytes).map Row.fields = (opened .rowStart [] []).cells bytes := by
  rw [← cells_fresh .origin]
  unfold rows
  split
  · next rest => exact absurd (List.prefix_append mark rest) h
  · rfl

/-- What may stand in front of input: a byte order mark, or nothing unless the input begins like
one. -/
def Fronts (front bytes : Bytes) : Prop :=
  front = mark ∨ front = [] ∧ ¬ mark <+: bytes

/-- Rows are read back in order, the blank ones apart. -/
theorem rows_written {rowList : List (List Cell × RowEnd)} {last : Option (List Cell)}
    {front : Bytes} (hfront : Fronts front (writeRows rowList last))
    (hreads : ∀ cells ∈ rowList.map Prod.fst ++ last.toList, ∀ c ∈ cells, c.Reads) :
    (rows (front ++ writeRows rowList last)).map Row.fields
      = fieldsOf (rowList.map Prod.fst ++ last.toList) := by
  rcases hfront with rfl | ⟨rfl, hmark⟩
  · rw [rows_mark, cells_writeRows hreads]
  · rw [List.nil_append, rows_unmarked hmark, cells_writeRows hreads]

end Csv

end Onboarding
