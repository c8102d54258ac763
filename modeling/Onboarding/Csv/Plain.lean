import Onboarding.Text.Blank
import Onboarding.Text.Split

/-!
# Plain rows

The format without quotes, by splitting alone: text is cut at every carriage return and line
feed, and each piece at every comma.
-/

namespace Onboarding

namespace Csv

/-- The rows of text without quotes, blank lines included. -/
def plainRows (text : List Char) : List (List (List Char)) :=
  (Split.pieces (fun c => c == '\n' || c == '\r') text).map (Split.pieces (· == ','))

/-- The first two fields of a row, trimmed, when there are two and neither is empty. -/
def plainPair? : List (List Char) → Option (List Char × List Char)
  | first :: second :: _ =>
    let first := Text.trimChars first
    let second := Text.trimChars second
    if first.isEmpty || second.isEmpty then none else some (first, second)
  | _ => none

/-- The pairs that text without quotes holds. -/
def plainPairs (text : List Char) : List (List Char × List Char) :=
  (plainRows text).filterMap plainPair?

end Csv

end Onboarding
