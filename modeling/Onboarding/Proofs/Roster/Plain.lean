import Onboarding.Proofs.Csv.Plain
import Onboarding.Proofs.Roster.Quoted

/-!
# Rosters without quotes

A roster of text without quotes gives what cutting alone gives.

* `Roster.filterMap_plainRows`: the rows that are read hold the same records as all lines do.
* `Roster.parse_plain`: the records of a roster are its plain pairs.
-/

namespace Onboarding

namespace Roster

open Csv (plainPair? plainPairs plainRows)

/-- The record of a plain pair. -/
def ofPair (pair : List Char × List Char) : Record :=
  ⟨String.ofList pair.1, ⟨String.ofList pair.2⟩⟩

/-- Lines that hold nothing name no record. -/
theorem filterMap_plainRows (text : List Char) :
    (((Split.pieces (fun c => c == '\n' || c == '\r') text).filter (!·.isEmpty)).map
        (Split.pieces (· == ','))).filterMap Record.ofPlain?
      = (plainPairs text).map ofPair := by
  rw [plainPairs, plainRows, List.map_filterMap, List.filterMap_map, List.filterMap_map,
    List.filterMap_filter]
  refine List.filterMap_congr fun line _ => ?_
  cases line with
  | nil => rfl
  | cons c line => rfl

/-- A roster of text that holds no quote, and does not begin with a byte order mark, gives exactly
the pairs of its lines: the text is cut at every carriage return and line feed and every piece at
its commas, and the first two fields of a piece are a record when neither is blank. -/
theorem parse_plain {text : List Char} (hquote : '"' ∉ text)
    (hmark : text.head? ≠ some '\uFEFF') :
    parse (Utf8.encode text) = .ok ((plainPairs text).map ofPair) := by
  rw [parse, recordsFrom_encode 0 (Csv.rows_encode_plain hquote hmark), filterMap_plainRows]

/-- Rows that look like comments, rows of blanks, empty fields, lone carriage returns and a last
line without an end. -/
def plainText : List Char :=
  "#ops,Secret9\r\n\r \t\n,x\nlonely\nalice,\u00A0\n\u2003 carol , pw ,more\r\u00E9va,S\u00E9cret".toList

theorem parse_plain_mixed :
    '"' ∉ plainText ∧ plainText.head? ≠ some '\uFEFF' ∧
      parse (Utf8.encode plainText)
        = .ok [⟨"#ops", ⟨"Secret9"⟩⟩, ⟨"carol", ⟨"pw"⟩⟩, ⟨"\u00E9va", ⟨"S\u00E9cret"⟩⟩] := by
  have hquote : '"' ∉ plainText := by decide +kernel
  have hmark : plainText.head? ≠ some '\uFEFF' := by decide +kernel
  refine ⟨hquote, hmark, (parse_plain hquote hmark).trans ?_⟩
  decide +kernel

end Roster

end Onboarding
