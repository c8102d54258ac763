import Onboarding.Proofs.Csv.Written

/-!
# Rows written in quotes

Rows whose fields are all written in quotes are read back as they are, whatever octets the fields
hold and however the rows end.

* Cells.  `reads_ofQuoted`: nothing but its quotes can have a meaning in a cell in quotes.
* Rows.  `rows_quoted`: the rows are read back; a row without fields is a blank line.
-/

namespace Onboarding

namespace Csv

/-! ## Cells -/

/-- Fields as cells in quotes. -/
def quotedCells (fields : List Bytes) : List Cell :=
  fields.map Cell.ofQuoted

theorem Cell.opens_ofQuoted (content : Bytes) : (ofQuoted content).Opens :=
  ⟨rfl, rfl⟩

theorem Cell.reads_ofQuoted (content : Bytes) : (ofQuoted content).Reads :=
  ⟨fun _ => .nil, fun h => absurd (opens_ofQuoted content) h⟩

theorem Cell.field_ofQuoted (content : Bytes) : (ofQuoted content).field = content := by
  rw [field, if_pos (opens_ofQuoted content)]
  exact List.append_nil content

/-- A row begins with a quote, unless it is blank. -/
theorem head?_writeCells (contents : List Bytes) (rest : Bytes) :
    (writeCells (quotedCells contents) ++ rest).head?
      = if contents.isEmpty then rest.head? else some quote := by
  cases contents with
  | nil => rfl
  | cons content more => cases more <;> rfl

/-- A row is blank when it has no fields. -/
theorem writeCells_quotedCells_isEmpty (contents : List Bytes) :
    (writeCells (quotedCells contents)).isEmpty = contents.isEmpty := by
  cases contents with
  | nil => rfl
  | cons content more => cases more <;> rfl

/-- Rows in quotes are read back as their fields. -/
theorem fieldsOf_quotedCells (rows : List (List Bytes)) :
    fieldsOf (rows.map quotedCells) = rows.filter (!·.isEmpty) := by
  have hfields : List.map Cell.field ∘ quotedCells = id := by
    funext contents
    simp [quotedCells, Cell.field_ofQuoted, Function.comp_def]
  have hblank : (fun cells => !(writeCells cells).isEmpty) ∘ quotedCells = (!·.isEmpty) := by
    funext contents
    simp only [Function.comp_apply, writeCells_quotedCells_isEmpty]
  rw [fieldsOf, List.filter_map, hblank, List.map_map, hfields, List.map_id]

/-! ## Rows -/

/-- Rows of fields, each written in quotes. -/
def writeQuoted (rows : List (List Bytes × RowEnd)) (last : Option (List Bytes)) : Bytes :=
  writeRows (rows.map fun row => (quotedCells row.1, row.2)) (last.map quotedCells)

theorem writeQuoted_cons (row : List Bytes × RowEnd) (rows : List (List Bytes × RowEnd))
    (last : Option (List Bytes)) :
    writeQuoted (row :: rows) last
      = writeCells (quotedCells row.1) ++ row.2.write ++ writeQuoted rows last := rfl

theorem head?_writeQuoted (rows : List (List Bytes × RowEnd)) (last : Option (List Bytes)) :
    (writeQuoted rows last).head? ≠ some 0xEF := by
  cases rows with
  | nil =>
    cases last with
    | none => exact nofun
    | some contents =>
      have hhead := head?_writeCells contents []
      rw [List.append_nil] at hhead
      rw [show writeQuoted [] (some contents) = writeCells (quotedCells contents) from rfl, hhead]
      split_ifs
      · exact nofun
      · decide
  | cons row rows =>
    rw [writeQuoted_cons, List.append_assoc, head?_writeCells]
    split_ifs
    · cases row.2 <;> simp [RowEnd.write]
    · decide

/-- Rows written in quotes are read back in order, the blank ones apart. -/
theorem rows_quoted (rowList : List (List Bytes × RowEnd)) (last : Option (List Bytes)) :
    (rows (writeQuoted rowList last)).map Row.fields
      = (rowList.map Prod.fst ++ last.toList).filter (!·.isEmpty) := by
  have hmark : ¬ mark <+: writeQuoted rowList last := by
    rintro ⟨rest, hrest⟩
    exact head?_writeQuoted rowList last (by rw [← hrest]; rfl)
  have hcells : (rowList.map fun row => (quotedCells row.1, row.2)).map Prod.fst
        ++ (last.map quotedCells).toList
      = (rowList.map Prod.fst ++ last.toList).map quotedCells := by
    cases last <;> simp
  have hreads : ∀ cells ∈ (rowList.map Prod.fst ++ last.toList).map quotedCells,
      ∀ c ∈ cells, c.Reads := by
    intro cells hcells c hc
    obtain ⟨contents, -, rfl⟩ := List.mem_map.mp hcells
    obtain ⟨content, -, rfl⟩ := List.mem_map.mp hc
    exact Cell.reads_ofQuoted content
  rw [← hcells] at hreads
  have hrows := rows_written (.inr ⟨rfl, hmark⟩) hreads
  rw [hcells, fieldsOf_quotedCells] at hrows
  exact hrows

end Csv

end Onboarding
