import Onboarding.Shell.Pattern

/-!
# Fields

A word whose parts have got their values becomes fields: what is unquoted and came from a value
is split at blanks, what is quoted stays together even when it is empty.
-/

namespace Onboarding

namespace Shell

/-- A piece of a word that has got its values. -/
inductive Piece where
  /-- Quoted text. -/
  | fixed (text : Chars)
  /-- Text of the script without quotes. -/
  | plain (text : Chars)
  /-- A value without quotes. -/
  | loose (text : Chars)
  /-- The end of a field. -/
  | stop

namespace Piece

/-- A character at which values are split. -/
def isBlank (c : Char) : Bool :=
  c == ' ' || c == '\t' || c == '\n'

/-- The fields that a value closes and the field that it leaves open. -/
def split : Option Chars → Chars → List Chars × Option Chars
  | field, [] => ([], field)
  | field, c :: rest =>
    if isBlank c then
      let (closed, field') := split none rest
      (field.toList ++ closed, field')
    else split (some (field.getD [] ++ [c])) rest

/-- The fields of pieces behind an open field. -/
def fieldsFrom : Option Chars → List Piece → List Chars
  | field, [] => field.toList
  | field, .stop :: rest => field.toList ++ fieldsFrom none rest
  | field, .fixed text :: rest | field, .plain text :: rest =>
    fieldsFrom (some (field.getD [] ++ text)) rest
  | field, .loose text :: rest =>
    let (closed, field') := split field text
    closed ++ fieldsFrom field' rest

/-- The fields of pieces. -/
def fields (pieces : List Piece) : List Chars :=
  fieldsFrom none pieces

/-- The text of a piece. -/
def text : Piece → Chars
  | fixed text | plain text | loose text => text
  | stop => [' ']

/-- The text of pieces that are not split. -/
def textOf (pieces : List Piece) : Chars :=
  pieces.flatMap text

/-- The steps of the pattern that a piece is. -/
def steps : Piece → List Glob
  | fixed text => Glob.ofQuoted text
  | plain text | loose text => Glob.ofPlain text
  | stop => [.char ' ']

/-- The pattern that pieces are. -/
def pattern (pieces : List Piece) : List Glob :=
  pieces.flatMap steps

/-- A piece of a word that stands for a missing value, as part of the value. -/
def asValue : Piece → Piece
  | plain text => loose text
  | piece => piece

/-- Arguments as pieces: each its own field when quoted. -/
def ofArguments : List Chars → List Piece
  | [] => []
  | [last] => [.fixed last]
  | first :: rest => .fixed first :: .stop :: ofArguments rest

end Piece

end Shell

end Onboarding
