/-!
# Places in YAML text

A cursor is what is left of a text together with the place where it stands.  Lines end with a
line feed, a carriage return, both, or one of three Unicode line ends; the end of the text counts
as a blank wherever a token has to be followed by one.
-/

namespace Onboarding

namespace Yaml

/-! ## Characters -/

/-- The characters that a text may hold. -/
def isAllowed (c : Char) : Bool :=
  let n := c.toNat
  n == 0x9 || n == 0xA || n == 0xD || (0x20 ≤ n && n ≤ 0x7E) || n == 0x85
    || (0xA0 ≤ n && n ≤ 0xD7FF) || (0xE000 ≤ n && n ≤ 0xFFFD) || 0x10000 ≤ n

/-- A space or a tab. -/
def isBlank (c : Char) : Bool :=
  c == ' ' || c == '\t'

/-- A line end. -/
def isBreak (c : Char) : Bool :=
  c == '\n' || c == '\x0d' || c == '\u0085' || c == '\u2028' || c == '\u2029'

/-- A character of a name: a letter, a digit, a hyphen or an underscore, all of ASCII. -/
def isNameChar (c : Char) : Bool :=
  c.isAlphanum || c == '_' || c == '-'

/-- Whether a text begins with a blank or a line end, or is at its end. -/
def startsBlank : List Char → Bool
  | [] => true
  | c :: _ => isBlank c || isBreak c

/-- Whether a text begins with a line end, or is at its end. -/
def startsBreak : List Char → Bool
  | [] => true
  | c :: _ => isBreak c

/-! ## Cursors -/

/-- What is left of a text, and the characters, the lines, and the characters of the line that
came before. -/
structure Cursor where
  rest : List Char
  index : Nat
  line : Nat
  column : Nat

namespace Cursor

/-- The start of a text. -/
def start (text : List Char) : Cursor :=
  ⟨text, 0, 0, 0⟩

/-- The cursor `n` characters later on the same line. -/
def skip (n : Nat) (c : Cursor) : Cursor :=
  ⟨c.rest.drop n, c.index + n, c.line, c.column + n⟩

/-- The cursor on the next line, when a line end is next. -/
def nextLine (c : Cursor) : Cursor :=
  match c.rest with
  | '\x0d' :: '\n' :: rest => ⟨rest, c.index + 2, c.line + 1, 0⟩
  | _ :: rest => ⟨rest, c.index + 1, c.line + 1, 0⟩
  | [] => c

/-- The text that the next line end stands for. -/
def lineEnd (c : Cursor) : List Char :=
  match c.rest with
  | '\u2028' :: _ => ['\u2028']
  | '\u2029' :: _ => ['\u2029']
  | _ => ['\n']

/-- The cursor behind the characters for which `p` holds, none of which ends a line. -/
def skipWhile (p : Char → Bool) (c : Cursor) : Cursor :=
  c.skip (c.rest.takeWhile p).length

/-- Whether a line begins with three times `mark` and a blank. -/
def isMark (mark : Char) (c : Cursor) : Bool :=
  c.column == 0 && [mark, mark, mark].isPrefixOf c.rest && startsBlank (c.rest.drop 3)

/-- Whether a line begins with the mark of a document's start or end. -/
def isDocumentMark (c : Cursor) : Bool :=
  c.isMark '-' || c.isMark '.'

/-- The cursor behind blanks and a comment, which have to end the line. -/
def finishLine? (c : Cursor) : Option Cursor :=
  let c := c.skipWhile isBlank
  let c := if c.rest.head? = some '#' then c.skipWhile (!isBreak ·) else c
  if startsBreak c.rest then some c.nextLine else none

end Cursor

end Yaml

end Onboarding
