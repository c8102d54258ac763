import Onboarding.Csv.Plain
import Onboarding.Proofs.Csv.Quoted
import Onboarding.Proofs.Text.Trim
import Onboarding.Roster

/-!
# Rosters written in quotes

A roster whose fields are all written in quotes holds the records that its rows name, whatever
characters the fields hold.

* `Csv.Row.texts_encode`: fields that are UTF-8 are read as their text, trimmed.
* `Roster.recordsFrom_encode`: rows of such fields give a record each where their first two fields
  are not blank, and no other row gives one.
* `Roster.parse_quoted`: the same for the octets of a whole roster.
-/

namespace Onboarding

/-- The record of a row of plain fields: the first two, trimmed, when neither is empty then. -/
def Record.ofPlain? (fields : List (List Char)) : Option Record :=
  (Csv.plainPair? fields).map fun pair => ⟨String.ofList pair.1, ⟨String.ofList pair.2⟩⟩

/-- The record of trimmed texts is the record of the fields. -/
theorem Record.ofFields?_trimmed (fields : List (List Char)) :
    Record.ofFields? (fields.map fun text => String.ofList (Text.trimChars text))
      = Record.ofPlain? fields := by
  have hempty : ∀ text : List Char, (String.ofList text).isEmpty = text.isEmpty := by
    intro text
    rw [Bool.eq_iff_iff, String.isEmpty_iff, List.isEmpty_iff, String.ofList_eq_empty_iff]
  match fields with
  | [] => rfl
  | [_] => rfl
  | username :: password :: _ =>
    simp only [List.map_cons, ofFields?, ofPlain?, Csv.plainPair?, hempty]
    split_ifs with h
    · rfl
    · rfl

namespace Csv

/-- Fields in UTF-8 are read as their text, trimmed. -/
theorem textsFrom_encode (start : Position) (field : Nat) (fields : List (List Char)) :
    textsFrom start field (fields.map Utf8.encode)
      = .ok (fields.map fun text => String.ofList (Text.trimChars text)) := by
  induction fields generalizing field with
  | nil => rfl
  | cons text fields ih =>
    rw [List.map_cons, textsFrom, Text.trimOctets_encode, Utf8.decode?_encode]
    simp only [ih, Text.trimChars_trimBy, List.map_cons]

theorem Row.texts_encode {row : Row} {fields : List (List Char)}
    (h : row.fields = fields.map Utf8.encode) :
    row.texts = .ok (fields.map fun text => String.ofList (Text.trimChars text)) := by
  rw [Row.texts, h, textsFrom_encode]

end Csv

namespace Roster

/-- Rows of fields in UTF-8 give the records that they name, in order. -/
theorem recordsFrom_encode (done : Nat) {rows : List Csv.Row} {plain : List (List (List Char))}
    (h : rows.map Csv.Row.fields = plain.map (List.map Utf8.encode)) :
    recordsFrom done rows = .ok (plain.filterMap Record.ofPlain?) := by
  induction plain generalizing done rows with
  | nil =>
    obtain rfl : rows = [] := List.map_eq_nil_iff.mp h
    rfl
  | cons fields plain ih =>
    obtain ⟨row, rest, rfl, hrow, hrest⟩ := List.map_eq_cons_iff.mp h
    rw [recordsFrom, Csv.Row.texts_encode hrow]
    simp only [ih (done + 1) hrest, Record.ofFields?_trimmed, List.filterMap_cons]
    cases Record.ofPlain? fields <;> rfl

/-- Blank lines name no record. -/
theorem filterMap_ofPlain?_filter (rows : List (List (List Char))) :
    (rows.filter (!·.isEmpty)).filterMap Record.ofPlain? = rows.filterMap Record.ofPlain? := by
  rw [List.filterMap_filter]
  refine List.filterMap_congr fun fields _ => ?_
  cases fields with
  | nil => rfl
  | cons text fields => rfl

/-- A roster in quotes.  Fields of any text, each written between quotes with the quotes inside
doubled, in rows that end in any of the three ways, the last one perhaps in none, are read as one
record for each row whose first two fields are not blank, in the order of the rows.  A row without
fields is a blank line. -/
theorem parse_quoted (rows : List (List (List Char) × Csv.RowEnd))
    (last : Option (List (List Char))) :
    parse (Csv.writeQuoted (rows.map fun row => (row.1.map Utf8.encode, row.2))
        (last.map (List.map Utf8.encode)))
      = .ok ((rows.map Prod.fst ++ last.toList).filterMap Record.ofPlain?) := by
  have hread := Csv.rows_quoted (rows.map fun row => (row.1.map Utf8.encode, row.2))
    (last.map (List.map Utf8.encode))
  have hencode : (rows.map fun row => (row.1.map Utf8.encode, row.2)).map Prod.fst
        ++ (last.map (List.map Utf8.encode)).toList
      = (rows.map Prod.fst ++ last.toList).map (List.map Utf8.encode) := by
    cases last <;> simp
  have hblank : ((rows.map Prod.fst ++ last.toList).map (List.map Utf8.encode)).filter (!·.isEmpty)
      = ((rows.map Prod.fst ++ last.toList).filter (!·.isEmpty)).map (List.map Utf8.encode) := by
    rw [List.filter_map]
    congr 2
    funext fields
    cases fields <;> rfl
  rw [hencode, hblank] at hread
  rw [parse, recordsFrom_encode 0 hread, filterMap_ofPlain?_filter]

end Roster

end Onboarding
