import Onboarding.Proofs.Csv.Padded
import Onboarding.Proofs.Roster.Quoted

/-!
# Rosters with padding

Spaces and tabs around the fields of a roster are trimmed, but the quotes of a field have a meaning
only where they are its first octet.

* Rows.  `Roster.recordsFrom_alike`: records do not depend on what is trimmed, nor does the number
  of a row that is not text.
* Rosters.  `Roster.parse_padded`: a roster is read like the one with the values of its cells in
  quotes, and like the one without padding unless there is some in front of quotes.
-/

namespace Onboarding

namespace Csv

/-! ## Rows -/

/-- A trimmed field as text. -/
def text? (octets : Bytes) : Option String :=
  (Utf8.decode? octets).map fun text => String.ofList (Text.trimChars text)

/-- Whether fields are text, and which, is decided field by field once they are trimmed. -/
theorem toOption_textsFrom (start : Position) (n : Nat) (fields : List Bytes) :
    (textsFrom start n fields).toOption = (fields.map Text.trimOctets).mapM text? := by
  induction fields generalizing n with
  | nil => rfl
  | cons octets fields ih =>
    rw [List.map_cons, List.mapM_cons, ← ih (n + 1), textsFrom, text?]
    cases Utf8.decode? (Text.trimOctets octets) with
    | none => rfl
    | some text => cases textsFrom start (n + 1) fields <;> rfl

end Csv

namespace Roster

open Csv (Cell Fronts RowEnd tightRows valuesOf writeQuoted writeRows)

/-- A row that is not text ends the records, and is named by its number. -/
theorem recordsFrom_cons_fault {row : Csv.Row} (h : row.texts.toOption = none) (done : Nat)
    (rest : List Csv.Row) :
    (recordsFrom done (row :: rest)).mapError RowError.row = .error (done + 1) := by
  rw [recordsFrom]
  cases htexts : row.texts with
  | error fault => rfl
  | ok texts =>
    rw [htexts] at h
    cases h

/-- A row of text gives its record, in front of those of the rows behind it. -/
theorem recordsFrom_cons_texts {row : Csv.Row} {texts : List String}
    (h : row.texts.toOption = some texts) (done : Nat) (rest : List Csv.Row) :
    (recordsFrom done (row :: rest)).mapError RowError.row
      = ((recordsFrom (done + 1) rest).mapError RowError.row).map
        ((Record.ofFields? texts).toList ++ ·) := by
  rw [recordsFrom]
  cases htexts : row.texts with
  | error fault =>
    rw [htexts] at h
    cases h
  | ok read =>
    rw [htexts] at h
    obtain rfl : read = texts := Option.some.inj h
    cases recordsFrom (done + 1) rest <;> rfl

/-- Rows whose fields are trimmed alike give the same records, or the same row is not text. -/
theorem recordsFrom_alike {rows more : List Csv.Row}
    (h : rows.map (fun row => row.fields.map Text.trimOctets)
      = more.map fun row => row.fields.map Text.trimOctets) (done : Nat) :
    (recordsFrom done rows).mapError RowError.row
      = (recordsFrom done more).mapError RowError.row := by
  induction rows generalizing more done with
  | nil =>
    obtain rfl : more = [] := List.map_eq_nil_iff.mp h.symm
    rfl
  | cons row rows ih =>
    obtain ⟨other, rest, rfl, hfirst, hrest⟩ := List.map_eq_cons_iff.mp h.symm
    have htexts : row.texts.toOption = other.texts.toOption := by
      rw [Csv.Row.texts, Csv.Row.texts, Csv.toOption_textsFrom, Csv.toOption_textsFrom, hfirst]
    cases hother : other.texts.toOption with
    | none =>
      rw [recordsFrom_cons_fault (htexts.trans hother), recordsFrom_cons_fault hother]
    | some texts =>
      rw [recordsFrom_cons_texts (htexts.trans hother), recordsFrom_cons_texts hother,
        ih hrest.symm (done + 1)]

/-! ## Rosters -/

/-- A roster of padded cells is read like the one with their values in quotes. -/
theorem parse_written {rows : List (List Cell × RowEnd)} {last : Option (List Cell)} {front : Bytes}
    (hfront : Fronts front (writeRows rows last))
    (hpadded : ∀ cells ∈ rows.map Prod.fst ++ last.toList, ∀ c ∈ cells, c.Padded) :
    (parse (front ++ writeRows rows last)).mapError RowError.row
      = (parse (writeQuoted (rows.map fun row => (valuesOf row.1, row.2))
          (last.map valuesOf))).mapError RowError.row := by
  have hread := Csv.rows_written hfront fun cells hcells c hc => (hpadded cells hcells c hc).reads
  have hquoted := Csv.rows_quoted (rows.map fun row => (valuesOf row.1, row.2)) (last.map valuesOf)
  have hvalues : (rows.map fun row => (valuesOf row.1, row.2)).map Prod.fst
        ++ (last.map valuesOf).toList
      = (rows.map Prod.fst ++ last.toList).map valuesOf := by
    cases last <;> simp
  rw [hvalues] at hquoted
  have htrim : ∀ rows : List Csv.Row, rows.map (fun row => row.fields.map Text.trimOctets)
      = (rows.map Csv.Row.fields).map (List.map Text.trimOctets) := by
    intro rows
    rw [List.map_map]
    rfl
  refine recordsFrom_alike ?_ 0
  rw [htrim, htrim, hread, hquoted, Csv.fieldsOf_trimmed hpadded]

/-- A roster with padding, of bare fields and fields in quotes, in rows that end in any of the three
ways, the last one perhaps in none.  It gives the records of its values, each written in quotes and
without padding, or fails at the same row.  The value of a field in quotes is its content, whatever
that holds, but behind padding the quotes are part of it.  So the padding around quotes makes no
difference where it only follows them. -/
theorem parse_padded {rows : List (List Cell × RowEnd)} {last : Option (List Cell)} {front : Bytes}
    (hfront : Fronts front (writeRows rows last))
    (hpadded : ∀ cells ∈ rows.map Prod.fst ++ last.toList, ∀ c ∈ cells, c.Padded) :
    (parse (front ++ writeRows rows last)).mapError RowError.row
        = (parse (writeQuoted (rows.map fun row => (valuesOf row.1, row.2))
            (last.map valuesOf))).mapError RowError.row ∧
      ((∀ cells ∈ rows.map Prod.fst ++ last.toList, ∀ c ∈ cells,
          c.quoted = true → c.before = []) →
        (parse (front ++ writeRows rows last)).mapError RowError.row
          = (parse (front ++ writeRows (tightRows rows)
              (last.map (List.map Cell.tight)))).mapError RowError.row) := by
  have hwritten := parse_written hfront hpadded
  refine ⟨hwritten, fun hbehind => ?_⟩
  have hcells : (tightRows rows).map Prod.fst ++ (last.map (List.map Cell.tight)).toList
      = (rows.map Prod.fst ++ last.toList).map (List.map Cell.tight) := by
    cases last <;> simp [tightRows]
  have htight : ∀ cells ∈ (tightRows rows).map Prod.fst ++ (last.map (List.map Cell.tight)).toList,
      ∀ c ∈ cells, c.Padded := by
    intro cells hmem c hc
    rw [hcells] at hmem
    obtain ⟨row, hrow, rfl⟩ := List.mem_map.mp hmem
    obtain ⟨d, hd, rfl⟩ := List.mem_map.mp hc
    exact (hpadded row hrow d hd).tight
  have hvalues : ∀ cells ∈ rows.map Prod.fst ++ last.toList,
      valuesOf (cells.map Cell.tight) = valuesOf cells :=
    fun cells hmem => Csv.valuesOf_tight (hbehind cells hmem)
  have hrows : (tightRows rows).map (fun row => (valuesOf row.1, row.2))
      = rows.map fun row => (valuesOf row.1, row.2) := by
    rw [tightRows, List.map_map]
    refine List.map_congr_left fun row hrow => ?_
    have hmem : row.1 ∈ rows.map Prod.fst ++ last.toList :=
      List.mem_append_left _ (List.mem_map_of_mem hrow)
    exact congrArg (·, row.2) (hvalues row.1 hmem)
  have hlast : (last.map (List.map Cell.tight)).map valuesOf = last.map valuesOf := by
    rw [Option.map_map]
    refine Option.map_congr fun cells hmem => hvalues cells (List.mem_append_right _ ?_)
    exact Option.mem_toList.mpr hmem
  rw [hwritten, parse_written hfront.tight htight, hrows, hlast]

/-- A row with padding behind quotes, and one with padding in front of them. -/
def mixedRows : List (List Cell × RowEnd) :=
  [([⟨Utf8.encode "alice".toList, false, [], [0x20]⟩,
      ⟨Utf8.encode "pa,ss".toList, true, [], [0x9]⟩], .lineFeed),
    ([⟨Utf8.encode "carol".toList, false, [], []⟩,
      ⟨Utf8.encode "pw".toList, true, [0x20], []⟩], .both)]

theorem parse_padded_mixed :
    (parse (writeRows mixedRows none)).mapError RowError.row
        = .ok [⟨"alice", ⟨"pa,ss"⟩⟩, ⟨"carol", ⟨"\"pw\""⟩⟩] ∧
      (parse (writeRows (mixedRows.take 1) none)).mapError RowError.row
        = (parse (writeRows (tightRows (mixedRows.take 1)) none)).mapError RowError.row := by
  have hboth := parse_padded (.inr ⟨rfl, by decide +kernel⟩ : Fronts [] (writeRows mixedRows none))
    (by decide +kernel)
  have hbehind := parse_padded
    (.inr ⟨rfl, by decide +kernel⟩ : Fronts [] (writeRows (mixedRows.take 1) none))
    (by decide +kernel)
  exact ⟨hboth.1.trans (by decide +kernel), hbehind.2 (by decide +kernel)⟩

/-- Padding around quotes need not be trimmed like padding around bare fields. -/
theorem not_parse_padded_same :
    ¬ ∀ (rows : List (List Cell × RowEnd)) (last : Option (List Cell)),
      (∀ cells ∈ rows.map Prod.fst ++ last.toList, ∀ c ∈ cells,
        (∀ b ∈ c.before ++ c.after, Csv.isPadding b) ∧
          (c.quoted = false → c.before = [] ∧ c.after = [] ∧ Csv.Bare c.content)) →
      (parse (writeRows rows last)).mapError RowError.row
        = (parse (writeRows (tightRows rows)
            (last.map (List.map Cell.tight)))).mapError RowError.row := by
  intro hclaim
  have hsame := hclaim [([⟨Utf8.encode "carol".toList, false, [], []⟩,
    ⟨Utf8.encode "pa,ss".toList, true, [0x20], []⟩], .lineFeed)] none (by decide +kernel)
  revert hsame
  decide +kernel

end Roster

end Onboarding
