import Onboarding.Text.Blank
import Onboarding.Text.Numeral

/-!
# Rows of comma-separated octets

`rows` splits octets into rows and fields.  A field that begins with a double quote runs to the
closing quote, and a doubled quote inside it stands for one quote; after the closing quote the
field goes on as a bare one.  In a bare field quotes are ordinary octets.  A carriage return or
a line feed ends a row, and ends that follow each other directly count once, so a line without
any octet is no row.  The last row needs no end.  One byte order mark in front is skipped.

Every row carries the place at which the row before it ended, for messages.  Fields are octets
until `Row.texts` trims them and reads them as UTF-8.
-/

namespace Onboarding

namespace Csv

/-! ## Places -/

/-- A place in the input: the octets, the line feeds and the rows before it, where lines are
counted from one. -/
structure Position where
  octet : Nat
  line : Nat
  row : Nat
  deriving DecidableEq

/-- The place at which input begins. -/
def Position.origin : Position :=
  ⟨0, 1, 0⟩

/-- The place after one more octet. -/
def Position.after (p : Position) (b : UInt8) : Position :=
  { p with octet := p.octet + 1, line := if b = 0xA then p.line + 1 else p.line }

/-- A row of fields as they were written, without their quotes, and the place before it. -/
structure Row where
  start : Position
  fields : List Bytes
  deriving DecidableEq

/-! ## Octets with a meaning -/

/-- The octet between two fields. -/
def comma : UInt8 := 0x2C

/-- The octet around a quoted field. -/
def quote : UInt8 := 0x22

/-- The octets that end a row. -/
def isRowEnd (b : UInt8) : Bool :=
  b == 0xA || b == 0xD

/-! ## Reading -/

/-- What the next octet belongs to. -/
inductive Mode where
  /-- Nothing of the next row has been read. -/
  | rowStart
  /-- A comma has been read and nothing of the field after it. -/
  | fieldStart
  /-- Inside a field, outside quotes. -/
  | bare
  /-- Inside quotes. -/
  | quoted
  /-- After a quote that was read inside quotes. -/
  | quoteSeen
  deriving DecidableEq

/-- A reader in the middle of its input.  `field` holds the octets of the open field and
`fields` the closed fields of the open row, both last first. -/
structure Reader where
  mode : Mode
  field : Bytes
  fields : List Bytes
  start : Position
  here : Position

namespace Reader

/-- A reader that has read nothing, where input begins at `here`. -/
def fresh (here : Position) : Reader :=
  ⟨.rowStart, [], [], .origin, here⟩

/-- The reader after an octet of the open field. -/
def push (r : Reader) (mode : Mode) (b : UInt8) : Reader :=
  { r with mode, field := b :: r.field }

/-- The reader after the comma that closes the open field. -/
def closeField (r : Reader) : Reader :=
  { r with mode := .fieldStart, field := [], fields := r.field.reverse :: r.fields }

/-- The open row, its open field closed. -/
def row (r : Reader) : Row :=
  ⟨r.start, (r.field.reverse :: r.fields).reverse⟩

/-- The reader after the end of the open row. -/
def closeRow (r : Reader) : Reader :=
  let here := { r.here with row := r.here.row + 1 }
  ⟨.rowStart, [], [], here, here⟩

/-- The answer to an octet outside quotes: a row when the octet ends one, and the reader after
it.  `opens` tells whether a quote opens a quoted field here. -/
def feedBare (r : Reader) (opens : Bool) (b : UInt8) : Option Row × Reader :=
  if b = comma then (none, r.closeField)
  else if isRowEnd b then (some r.row, r.closeRow)
  else if b = quote ∧ opens then (none, { r with mode := .quoted })
  else (none, r.push .bare b)

/-- The answer to an octet, without regard to its place. -/
def feedHere (r : Reader) (b : UInt8) : Option Row × Reader :=
  match r.mode with
  | .rowStart => if isRowEnd b then (none, r) else r.feedBare true b
  | .fieldStart => r.feedBare true b
  | .bare => r.feedBare false b
  | .quoted => if b = quote then (none, { r with mode := .quoteSeen }) else (none, r.push .quoted b)
  | .quoteSeen => if b = quote then (none, r.push .quoted b) else r.feedBare false b

/-- The answer to an octet: a row when the octet ends one, and the reader after it. -/
def feed (r : Reader) (b : UInt8) : Option Row × Reader :=
  { r with here := r.here.after b }.feedHere b

/-- The answer to the end of input: the open row, when there is one. -/
def finish (r : Reader) : List Row :=
  match r.mode with
  | .rowStart => []
  | _ => [r.row]

/-- The rows of the rest of the input. -/
def rows (r : Reader) : Bytes → List Row
  | [] => r.finish
  | b :: rest =>
    match r.feed b with
    | (some row, r') => row :: r'.rows rest
    | (none, r') => r'.rows rest

end Reader

/-- The rows of an input. -/
def rows : Bytes → List Row
  | 0xEF :: 0xBB :: 0xBF :: rest => (Reader.fresh ⟨3, 1, 0⟩).rows rest
  | bytes => (Reader.fresh .origin).rows bytes

/-! ## Text -/

/-- A field that is not UTF-8: the place before its row, its number in the row, and how many of
its octets are sound. -/
structure Fault where
  start : Position
  field : Nat
  index : Nat
  deriving DecidableEq

/-- What is said about a fault. -/
def Fault.message (f : Fault) : String :=
  "CSV parse error: record " ++ toString f.start.row ++ " (line " ++ toString f.start.line
    ++ ", field: " ++ toString f.field ++ ", byte: " ++ toString f.start.octet
    ++ "): invalid utf-8: invalid UTF-8 in field " ++ toString f.field
    ++ " near byte index " ++ toString f.index

/-- The texts of fields from number `field` on, trimmed, or the first fault.  A field is trimmed
before it is read as text, in every row, so that the place of a fault is counted from the first
octet that is no blank. -/
def textsFrom (start : Position) : Nat → List Bytes → Except Fault (List String)
  | _, [] => .ok []
  | field, octets :: rest =>
    let octets := Text.trimOctets octets
    match Utf8.decode? octets with
    | none => .error ⟨start, field, Utf8.validLength octets⟩
    | some text =>
      match textsFrom start (field + 1) rest with
      | .error fault => .error fault
      | .ok texts => .ok (String.ofList (Text.trimChars text) :: texts)

/-- The fields of a row as text, without blanks around them. -/
def Row.texts (row : Row) : Except Fault (List String) :=
  textsFrom row.start 0 row.fields

end Csv

end Onboarding
