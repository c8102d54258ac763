import Onboarding.Proofs.Roster.Padded

/-!
# The end of the last line

A roster may end in the middle of a row, even within quotes or within a character, and a line feed
behind it changes nothing of what it gives.

* Rows.  `Reader.trimmed_concat`: in whatever state the reader ends, the line feed ends a row that
  would have ended anyway, or is the last octet of its last field, from which it is trimmed.
* Rosters.  `Roster.parse_concat`: the records stay the same, or the number of the row that is not
  text.
-/

namespace Onboarding

namespace Csv

namespace Reader

/-- The fields of rows without the blanks around them. -/
def trimmed (rows : List (List Bytes)) : List (List Bytes) :=
  rows.map (List.map Text.trimOctets)

/-- A line feed within quotes that are left open is trimmed from the field that it is the end of. -/
theorem trimmed_closed (field : Bytes) (fields : List Bytes) :
    trimmed [closed (0xA :: field) fields] = trimmed [closed field fields] := by
  have hnone : ∀ b ∈ ([] : Bytes), Text.isBlankOctet b := nofun
  have hblank : ∀ b ∈ ([0xA] : Bytes), Text.isBlankOctet b :=
    List.forall_mem_singleton.mpr (by decide)
  have htrim : Text.trimOctets (field.reverse ++ [0xA]) = Text.trimOctets field.reverse :=
    Text.trimBy_padded hnone hblank field.reverse
  simp [trimmed, closed, htrim]

/-- Outside quotes a line feed ends the row that the end of input would have ended. -/
theorem cells_lineFeed {mode : Mode} (h : mode ≠ .quoted) (hrow : mode ≠ .rowStart) (field : Bytes)
    (fields : List Bytes) :
    (opened mode field fields).cells [0xA] = (opened mode field fields).cells [] := by
  rw [cells_rowEnd h hrow (by decide), cells_nil hrow]
  rfl

/-- At the end of input a line feed makes no difference to the rows, whatever the reader has open.
-/
theorem trimmed_lineFeed (r : Reader) : trimmed (r.cells [0xA]) = trimmed (r.cells []) := by
  have halike : Alike r (opened r.mode r.field r.fields) := ⟨rfl, rfl, rfl⟩
  rw [cells_alike halike, cells_alike halike]
  cases r.mode with
  | rowStart => rw [cells_blank (by decide)]
  | quoted =>
    have hopen : Mode.quoted ≠ .rowStart := nofun
    rw [cells_quoted (by decide), cells_nil hopen, cells_nil hopen, trimmed_closed]
  | fieldStart | bare | quoteSeen => rw [cells_lineFeed (by decide) (by decide)]

/-- What is read before the line feed is read in both cases. -/
theorem trimmed_concat (octets : Bytes) (r : Reader) :
    trimmed (r.cells (octets ++ [0xA])) = trimmed (r.cells octets) := by
  induction octets generalizing r with
  | nil => exact trimmed_lineFeed r
  | cons b octets ih =>
    have hrest := ih (r.feed b).2
    rw [trimmed, trimmed] at hrest
    rw [List.cons_append, cells_cons, cells_cons, trimmed, trimmed, List.map_append, List.map_append,
      hrest]

end Reader

/-- A line feed behind an input makes no difference to its rows.  It completes no byte order mark.
-/
theorem rows_concat (octets : Bytes) :
    Reader.trimmed ((rows (octets ++ [0xA])).map Row.fields)
      = Reader.trimmed ((rows octets).map Row.fields) := by
  by_cases hmark : mark <+: octets
  · obtain ⟨rest, rfl⟩ := hmark
    rw [List.append_assoc, rows_mark, rows_mark, Reader.trimmed_concat]
  · have hbehind : ¬ mark <+: octets ++ [0xA] :=
      fun h => hmark (prefix_of_prefix_append (by decide) h)
    rw [rows_unmarked hmark, rows_unmarked hbehind, Reader.trimmed_concat]

end Csv

namespace Roster

/-- A roster gives the same records with and without a line feed behind it, or the same row is not
text, wherever it ends. -/
theorem parse_concat (bytes : Bytes) :
    (parse (bytes ++ [0xA])).mapError RowError.row = (parse bytes).mapError RowError.row := by
  have hrows := Csv.rows_concat bytes
  rw [Csv.Reader.trimmed, Csv.Reader.trimmed, List.map_map, List.map_map] at hrows
  exact recordsFrom_alike hrows 0

end Roster

end Onboarding
