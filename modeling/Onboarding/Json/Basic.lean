import Onboarding.Text.Utf8
import Onboarding.Text.Numeral

/-!
# JSON values

A value as it is written: members keep their order and may repeat a name, and a number keeps the
spelling of its fraction and exponent.  A string literal that is well delimited may still name no
text, by octets that are not UTF-8 or by half of a surrogate pair; it is then `none`, and matters
only where its text is wanted.
-/

namespace Onboarding

/-- A number as it is written: its sign, the digits before the point, and the spelling of the
fraction and the exponent that follow. -/
structure JsonNumber where
  negative : Bool
  whole : Nat
  tail : List Char
  deriving DecidableEq

/-- The natural number that is written without sign, fraction and exponent. -/
def JsonNumber.natural? (n : JsonNumber) : Option Nat :=
  if n.negative || !n.tail.isEmpty then none else some n.whole

/-- A JSON value. -/
inductive Json where
  | null
  | bool (value : Bool)
  | number (value : JsonNumber)
  | string (text : Option String)
  | array (items : List Json)
  | object (members : List (Option String × Json))

namespace Json

/-- A string that has a text. -/
def text (s : String) : Json :=
  .string (some s)

/-- An object whose names all have a text. -/
def ofMembers (members : List (String × Json)) : Json :=
  .object (members.map (fun m => (some m.1, m.2)))

/-- The text of a string. -/
def text? : Json → Option String
  | .string text => text
  | _ => none

/-- The values of the members of one name, in order. -/
def valuesOf (name : String) (members : List (String × Json)) : List Json :=
  (members.filter (fun m => m.1 == name)).map (·.2)

/-- The members of an object, when all names have a text. -/
def namedMembers : List (Option String × Json) → Option (List (String × Json))
  | [] => some []
  | (none, _) :: _ => none
  | (some name, value) :: rest => (namedMembers rest).map ((name, value) :: ·)

/-- The value of the only member of one name: nothing when the name is missing, and a failure
when it repeats. -/
def only? (name : String) (members : List (String × Json)) : Option (Option Json) :=
  match valuesOf name members with
  | [] => some none
  | [value] => some (some value)
  | _ => none

end Json

end Onboarding
