import Onboarding.Csv.Row

/-!
# Written rows

The other direction of `Onboarding.Csv.Row`: rows laid out as octets.  A cell is written bare or
between quotes with the quotes inside doubled, and may have padding around it; each row has an
end of its own choice.
-/

namespace Onboarding

namespace Csv

/-- A field and the way it is written. -/
structure Cell where
  content : Bytes
  quoted : Bool
  before : Bytes
  after : Bytes
  deriving DecidableEq

/-- The content between quotes, every quote inside written twice. -/
def quoteContent (content : Bytes) : Bytes :=
  quote :: content.flatMap (fun b => if b = quote then [quote, quote] else [b]) ++ [quote]

/-- A cell in quotes without padding. -/
def Cell.ofQuoted (content : Bytes) : Cell :=
  ⟨content, true, [], []⟩

/-- The same cell without padding. -/
def Cell.unpadded (c : Cell) : Cell :=
  { c with before := [], after := [] }

/-- The octets of a cell. -/
def Cell.write (c : Cell) : Bytes :=
  c.before ++ (if c.quoted then quoteContent c.content else c.content) ++ c.after

/-- The ways to end a row. -/
inductive RowEnd where
  | lineFeed
  | carriageReturn
  | both
  deriving DecidableEq

/-- The octets of a row end. -/
def RowEnd.write : RowEnd → Bytes
  | .lineFeed => [0xA]
  | .carriageReturn => [0xD]
  | .both => [0xD, 0xA]

/-- The octets of a row without its end. -/
def writeCells : List Cell → Bytes
  | [] => []
  | [c] => c.write
  | c :: rest => c.write ++ comma :: writeCells rest

/-- The octets of rows and their ends; the last row may go without one. -/
def writeRows : List (List Cell × RowEnd) → Option (List Cell) → Bytes
  | [], none => []
  | [], some cells => writeCells cells
  | (cells, rowEnd) :: rest, last => writeCells cells ++ rowEnd.write ++ writeRows rest last

end Csv

end Onboarding
