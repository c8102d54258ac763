import Onboarding.Text.Utf8
import Onboarding.Yaml.Written

/-!
# YAML tokens

A text as tokens.  Indentation becomes tokens that start and end collections.  That something is
a key is known only at the colon behind it, so whatever may be a key is kept pending with its
place among the tokens; the colon puts the tokens of a key there.

`tokens?` gives nothing for a text with a character that starts no token, with a scalar that does
not end, or with indentation that fits no collection.
-/

namespace Onboarding

namespace Yaml

/-- A token. -/
inductive Token where
  | documentStart
  | documentEnd
  | version (major minor : Nat)
  | tagShorthand (handle start : List Char)
  | blockSequenceStart
  | blockMappingStart
  | blockEnd
  | flowSequenceStart
  | flowSequenceEnd
  | flowMappingStart
  | flowMappingEnd
  | blockEntry
  | flowEntry
  | key
  | value
  | alias (name : List Char)
  | anchor (name : List Char)
  | tag (handle suffix : List Char)
  | scalar (plain : Bool) (text : List Char)
  deriving DecidableEq

/-! ## State -/

/-- Something that may be a key: its place in the text, the number of tokens before it, and
whether nothing else can stand there. -/
structure Pending where
  index : Nat
  line : Nat
  column : Nat
  position : Nat
  required : Bool

/-- A reader of tokens.  The tokens read so far are last first.  `pending` has the possible key of
each open flow collection, the innermost first, and that of the block outside them last. -/
structure Lexer where
  cursor : Cursor
  tokens : List Token
  indent : Int
  indents : List Int
  keyAllowed : Bool
  pending : List (Option Pending)

namespace Lexer

/-- A reader at the start of a text. -/
def start (text : List Char) : Lexer :=
  ⟨.start text, [], -1, [], true, [none]⟩

/-- Whether a flow collection is open. -/
def inFlow (l : Lexer) : Bool :=
  1 < l.pending.length

/-- The reader after a token. -/
def emit (l : Lexer) (t : Token) : Lexer :=
  { l with tokens := t :: l.tokens }

/-- The reader with a token put behind the first `position` tokens. -/
def insert (l : Lexer) (position : Nat) (t : Token) : Lexer :=
  let behind := l.tokens.length - position
  { l with tokens := l.tokens.take behind ++ t :: l.tokens.drop behind }

/-- The reader `n` characters later. -/
def skip (l : Lexer) (n : Nat) : Lexer :=
  { l with cursor := l.cursor.skip n }

/-- The reader that allows a key to come next, or does not. -/
def allowKey (l : Lexer) (allowed : Bool) : Lexer :=
  { l with keyAllowed := allowed }

/-! ## Indentation -/

/-- The reader after a block collection begins at a column, when one does, with the token of its
start behind the first `position` tokens. -/
def roll (l : Lexer) (column : Nat) (position : Nat) (t : Token) : Lexer :=
  if !l.inFlow && l.indent < (column : Int) then
    { l.insert position t with indents := l.indent :: l.indents, indent := column }
  else l

/-- The reader after the ends of collections that are indented deeper than `column`. -/
def unrollFrom (column : Int) : List Int → Lexer → Lexer
  | [], l => l
  | outer :: rest, l =>
    if column < l.indent then
      unrollFrom column rest { l.emit .blockEnd with indent := outer, indents := rest }
    else l

/-- The reader after the ends of block collections that are indented deeper than `column`. -/
def unroll (l : Lexer) (column : Int) : Lexer :=
  if l.inFlow then l else unrollFrom column l.indents l

/-! ## Possible keys -/

/-- How many characters a key may be away from its colon. -/
def keyReach : Nat :=
  1024

/-- A possible key that can still be one; a failure when it had to be one and no longer can. -/
def freshKey? (c : Cursor) : Option Pending → Option (Option Pending)
  | none => some none
  | some p =>
    if p.line < c.line ∨ p.index + keyReach < c.index then
      if p.required then none else some none
    else some (some p)

/-- The reader without the possible keys that are too far away. -/
def dropStale (l : Lexer) : Option Lexer := do
  let pending ← l.pending.mapM (freshKey? l.cursor)
  return { l with pending }

/-- The reader without the innermost possible key. -/
def dropKey (l : Lexer) : Option Lexer :=
  match l.pending with
  | some p :: rest => if p.required then none else some { l with pending := none :: rest }
  | _ => some l

/-- The reader that takes what comes next as a possible key. -/
def saveKey (l : Lexer) : Option Lexer :=
  if l.keyAllowed then do
    let required := !l.inFlow && l.indent == (l.cursor.column : Int)
    let l ← l.dropKey
    let p : Pending :=
      ⟨l.cursor.index, l.cursor.line, l.cursor.column, l.tokens.length, required⟩
    return { l with pending := some p :: l.pending.tail }
  else some l

/-! ## Between tokens -/

/-- The cursor in front of the next token, and whether a line end was passed.  A tab counts as a
blank where no key can come. -/
def skipGap (flow : Bool) : Nat → Bool → Cursor → Cursor × Bool
  | 0, keyAllowed, c => (c, keyAllowed)
  | fuel + 1, keyAllowed, c =>
    let c := if c.index = 0 ∧ c.rest.head? = some '\uFEFF' then c.skip 1 else c
    let c := c.skipWhile fun ch => ch == ' ' || ((flow || !keyAllowed) && ch == '\t')
    let c := if c.rest.head? = some '#' then c.skipWhile (!isBreak ·) else c
    match c.rest with
    | [] => (c, keyAllowed)
    | ch :: _ =>
      if isBreak ch then skipGap flow fuel (keyAllowed || !flow) c.nextLine else (c, keyAllowed)

/-! ## Directives and properties -/

/-- The characters of a tag; commas and brackets only where `whole`. -/
def isTagChar (whole : Bool) (c : Char) : Bool :=
  isNameChar c || ";/?:@&=+$.!~*'()".toList.contains c || (whole && ",[]".toList.contains c)

/-- The text of a tag, its escapes resolved, and the number of characters that it takes. -/
def tagText? (whole : Bool) : Nat → List Char → Option (List Char × Nat)
  | 0, _ => none
  | fuel + 1, text =>
    match text with
    | '%' :: _ =>
      let octets := escaped fuel text
      match Utf8.decode? octets with
      | some chars =>
        if chars.isEmpty then none
        else
          (tagText? whole fuel (text.drop (3 * octets.length))).map fun r =>
            (chars ++ r.1, 3 * octets.length + r.2)
      | none => none
    | c :: rest =>
      if isTagChar whole c then (tagText? whole fuel rest).map fun r => (c :: r.1, r.2 + 1)
      else some ([], 0)
    | [] => some ([], 0)
where
  /-- The octets of the escapes at the start of a text. -/
  escaped : Nat → List Char → Bytes
    | fuel + 1, '%' :: a :: b :: rest =>
      match Numeral.read? 16 [a, b] with
      | some n => UInt8.ofNat n :: escaped fuel rest
      | none => []
    | _, _ => []

/-- The handle of a tag. -/
def handle? (text : List Char) : Option (List Char) :=
  match text with
  | '!' :: rest =>
    let name := rest.takeWhile isNameChar
    some ('!' :: name ++ if (rest.drop name.length).head? = some '!' then ['!'] else [])
  | _ => none

/-- A number of at most nine digits, and how many there are. -/
def versionPart? (text : List Char) : Option (Nat × Nat) :=
  let digits := text.takeWhile Char.isDigit
  if 9 < digits.length then none else (Numeral.read? 10 digits).map (·, digits.length)

/-- A directive behind its sign, and the cursor behind its line. -/
def directive (c : Cursor) : Option (Token × Cursor) := do
  let name := c.rest.takeWhile isNameChar
  let c := c.skip name.length
  if !startsBlank c.rest then none
  else
    let c := c.skipWhile isBlank
    match String.ofList name with
    | "YAML" =>
      let (major, length) ← versionPart? c.rest
      let c := c.skip length
      if c.rest.head? ≠ some '.' then none
      else
        let (minor, length) ← versionPart? (c.rest.drop 1)
        let c ← (c.skip (length + 1)).finishLine?
        return (.version major minor, c)
    | "TAG" =>
      let handle ← handle? c.rest
      let c := c.skip handle.length
      if handle ≠ ['!'] ∧ (handle.length < 2 ∨ handle.getLast? ≠ some '!') then none
      else if !(c.rest.head?.any isBlank) then none
      else
        let c := c.skipWhile isBlank
        let (start, length) ← tagText? true (c.rest.length + 1) c.rest
        let c := c.skip length
        if start.isEmpty || !startsBlank c.rest then none
        else
          let c ← c.finishLine?
          return (.tagShorthand handle start, c)
    | _ => none

/-- The name of an anchor or an alias behind its sign, and the cursor after it. -/
def name (c : Cursor) : Option (List Char × Cursor) :=
  let name := c.rest.takeWhile isNameChar
  let after := c.skip name.length
  let ends := startsBlank after.rest || after.rest.head?.any "?:,]\x7d%@\x60".toList.contains
  if name.isEmpty || !ends then none else some (name, after)

/-- A tag behind its sign, and the cursor after it. -/
def tag (inFlow : Bool) (c : Cursor) : Option (Token × Cursor) := do
  let (token, c) ←
    (match c.rest with
    | '<' :: rest => do
      let (text, length) ← tagText? true (rest.length + 1) rest
      let c := c.skip (length + 1)
      if text.isEmpty || c.rest.head? ≠ some '>' then none
      else some (.tag [] text, c.skip 1)
    | rest => do
      let handle ← handle? ('!' :: rest)
      if 2 ≤ handle.length ∧ handle.getLast? = some '!' then
        let c := c.skip (handle.length - 1)
        let (suffix, length) ← tagText? false (c.rest.length + 1) c.rest
        if suffix.isEmpty then none else some (.tag handle suffix, c.skip length)
      else
        let (suffix, length) ← tagText? false (rest.length + 1) rest
        let token := if suffix.isEmpty then Token.tag [] ['!'] else .tag ['!'] suffix
        some (token, c.skip length) : Option (Token × Cursor))
  if startsBlank c.rest || (inFlow && c.rest.head? == some ',') then some (token, c) else none

/-! ## Tokens -/

/-- The reader after a token of one kind for each document. -/
def documentToken (l : Lexer) : Option Lexer := do
  let l ← (l.unroll (-1)).dropKey
  return l.allowKey false

/-- The reader after the start of a flow collection. -/
def openFlow (l : Lexer) (t : Token) : Option Lexer := do
  let l ← l.saveKey
  return ({ l with pending := none :: l.pending }.allowKey true).skip 1 |>.emit t

/-- The reader after the end of a flow collection. -/
def closeFlow (l : Lexer) (t : Token) : Option Lexer := do
  let l ← l.dropKey
  let pending := if l.inFlow then l.pending.tail else l.pending
  return ({ l with pending }.allowKey false).skip 1 |>.emit t

/-- The reader after the sign of an entry of a block sequence. -/
def blockEntry (l : Lexer) : Option Lexer :=
  if !l.inFlow && !l.keyAllowed then none
  else do
    let l := l.roll l.cursor.column l.tokens.length .blockSequenceStart
    let l ← l.dropKey
    return ((l.allowKey true).skip 1).emit .blockEntry

/-- The reader after the sign of a key. -/
def keySign (l : Lexer) : Option Lexer :=
  if !l.inFlow && !l.keyAllowed then none
  else do
    let l := l.roll l.cursor.column l.tokens.length .blockMappingStart
    let l ← l.dropKey
    return ((l.allowKey (!l.inFlow)).skip 1).emit .key

/-- The reader after the sign of a value; what was pending becomes the key. -/
def valueSign (l : Lexer) : Option Lexer :=
  match l.pending with
  | some p :: rest =>
    let l := (l.insert p.position .key).roll p.column p.position .blockMappingStart
    some ((({ l with pending := none :: rest }.allowKey false).skip 1).emit .value)
  | _ =>
    if !l.inFlow && !l.keyAllowed then none
    else
      let l := l.roll l.cursor.column l.tokens.length .blockMappingStart
      some (((l.allowKey (!l.inFlow)).skip 1).emit .value)

/-- The reader after a token that may be part of a key. -/
def keyPart (l : Lexer) (r : Option (Token × Cursor)) : Option Lexer := do
  let l ← l.saveKey
  let (t, cursor) ← r
  return { l.allowKey false with cursor }.emit t

/-- The reader after a plain scalar. -/
def plain (l : Lexer) : Option Lexer := do
  let l ← l.saveKey
  let c := l.cursor
  let (text, gap, cursor) ← plainFrom l.inFlow (l.indent + 1) (c.rest.length + 1) [] Gap.none c
  return { l.allowKey gap.broken with cursor }.emit (.scalar true text)

/-- The reader after a quoted scalar. -/
def quoted (l : Lexer) (quote : Char) : Option Lexer := do
  let l ← l.saveKey
  let c := l.cursor.skip 1
  let (text, cursor) ← quotedFrom quote (c.rest.length + 1) [] c
  return { l.allowKey false with cursor }.emit (.scalar false text)

/-- The reader after a block scalar. -/
def blockScalar (l : Lexer) (literal : Bool) : Option Lexer := do
  let l ← l.dropKey
  let (text, cursor) ← block literal l.indent (l.cursor.skip 1)
  return { l.allowKey true with cursor }.emit (.scalar false text)

/-- The characters that a plain scalar cannot begin with, or only before some others. -/
def isSign (c : Char) : Bool :=
  "-?:,[]\x7b\x7d#&*!|>'\"%@\x60".toList.contains c

/-- The reader after the token that is next, which begins with the character `ch`. -/
def token (l : Lexer) (ch : Char) (rest : List Char) : Option Lexer :=
  let c := l.cursor
  if c.column = 0 ∧ ch = '%' then do
    let l ← l.documentToken
    let (t, cursor) ← directive (c.skip 1)
    return { l with cursor }.emit t
  else if c.isMark '-' then l.documentToken.map fun l => (l.skip 3).emit .documentStart
  else if c.isMark '.' then l.documentToken.map fun l => (l.skip 3).emit .documentEnd
  else if ch = '[' then l.openFlow .flowSequenceStart
  else if ch = '\x7b' then l.openFlow .flowMappingStart
  else if ch = ']' then l.closeFlow .flowSequenceEnd
  else if ch = '\x7d' then l.closeFlow .flowMappingEnd
  else if ch = ',' then
    l.dropKey.map fun l => ((l.allowKey true).skip 1).emit .flowEntry
  else if ch = '-' ∧ startsBlank rest then l.blockEntry
  else if ch = '?' ∧ (l.inFlow ∨ startsBlank rest) then l.keySign
  else if ch = ':' ∧ (l.inFlow ∨ startsBlank rest) then l.valueSign
  else if ch = '*' then l.keyPart ((name (c.skip 1)).map fun r => (.alias r.1, r.2))
  else if ch = '&' then l.keyPart ((name (c.skip 1)).map fun r => (.anchor r.1, r.2))
  else if ch = '!' then l.keyPart (tag l.inFlow (c.skip 1))
  else if ch = '|' ∧ !l.inFlow then l.blockScalar true
  else if ch = '>' ∧ !l.inFlow then l.blockScalar false
  else if ch = '\'' ∨ ch = '"' then l.quoted ch
  else if !(startsBlank [ch] || isSign ch)
      || (ch == '-' && !(rest.head?.any isBlank))
      || (!l.inFlow && (ch == '?' || ch == ':') && !startsBlank rest) then l.plain
  else none

/-- The reader at the end of the text. -/
def finish (l : Lexer) : Option Lexer :=
  (l.unroll (-1)).dropKey

/-- All tokens of the rest of the text, last first. -/
def run : Nat → Lexer → Option (List Token)
  | 0, _ => none
  | fuel + 1, l => do
    let (cursor, keyAllowed) := skipGap l.inFlow (l.cursor.rest.length + 1) l.keyAllowed l.cursor
    let l ← { l with cursor, keyAllowed }.dropStale
    match cursor.rest with
    | [] => return (← l.finish).tokens
    | ch :: rest => run fuel (← (l.unroll cursor.column).token ch rest)

end Lexer

/-- The tokens of a text. -/
def tokens? (text : List Char) : Option (List Token) :=
  if text.all isAllowed then
    (Lexer.run (text.length + 1) (.start text)).map List.reverse
  else none

end Yaml

end Onboarding
