import Onboarding.Json.Basic

/-!
# Writing JSON

A value as text without blanks.  In a string the quote, the backslash and the controls are
escaped, the common controls by a letter, and every other character stands for itself.
-/

namespace Onboarding

namespace Json

/-- One character inside a string. -/
def writeChar (c : Char) : List Char :=
  if c = '"' then ['\\', '"']
  else if c = '\\' then ['\\', '\\']
  else if c.toNat = 0x8 then ['\\', 'b']
  else if c = '\t' then ['\\', 't']
  else if c = '\n' then ['\\', 'n']
  else if c.toNat = 0xC then ['\\', 'f']
  else if c = '\r' then ['\\', 'r']
  else if c.toNat < 0x20 then '\\' :: 'u' :: Numeral.hex4 c.toNat
  else [c]

/-- A string. -/
def writeText (s : String) : List Char :=
  '"' :: s.toList.flatMap writeChar ++ ['"']

/-- A string, or half of a surrogate pair for one that names no text. -/
def writeString : Option String → List Char
  | some s => writeText s
  | none => ['"', '\\', 'u', 'd', '8', '0', '0', '"']

/-- A number. -/
def writeNumber (n : JsonNumber) : List Char :=
  (if n.negative then ['-'] else []) ++ Numeral.decimal n.whole ++ n.tail

mutual

/-- A value. -/
def write : Json → List Char
  | .null => ['n', 'u', 'l', 'l']
  | .bool true => ['t', 'r', 'u', 'e']
  | .bool false => ['f', 'a', 'l', 's', 'e']
  | .number n => writeNumber n
  | .string text => writeString text
  | .array items => '[' :: writeItems items ++ [']']
  | .object members => '\x7b' :: writeMembers members ++ ['\x7d']

/-- The items of an array. -/
def writeItems : List Json → List Char
  | [] => []
  | [item] => write item
  | item :: rest => write item ++ ',' :: writeItems rest

/-- The members of an object. -/
def writeMembers : List (Option String × Json) → List Char
  | [] => []
  | [(name, value)] => writeString name ++ ':' :: write value
  | (name, value) :: rest =>
    writeString name ++ ':' :: write value ++ ',' :: writeMembers rest

end

/-- A value as a string. -/
def render (value : Json) : String :=
  String.ofList value.write

/-- A value as octets. -/
def encode (value : Json) : Bytes :=
  Utf8.encode value.write

end Json

end Onboarding
