import Onboarding.Text.Numeral
import Onboarding.Yaml.Cursor

/-!
# Written scalars

The text that a scalar stands for, in each of the ways to write one: without quotes, in single or
double quotes, and as a block of lines.  Line ends between two words become one blank, and of
several in a row all but the first stay.
-/

namespace Onboarding

namespace Yaml

/-! ## Gaps between words -/

/-- The blanks and line ends between two words.  `blanks` come before any line end and are kept
only when there is none; `first` is the first line end and `more` are the others. -/
structure Gap where
  blanks : List Char
  broken : Bool
  first : List Char
  more : List Char

namespace Gap

/-- Nothing between two words. -/
def none : Gap :=
  ⟨[], false, [], []⟩

/-- A line end that is escaped, and so stands for nothing. -/
def joined : Gap :=
  ⟨[], true, [], []⟩

/-- The text that a gap stands for. -/
def text (g : Gap) : List Char :=
  if g.broken then
    if g.first = ['\n'] then (if g.more.isEmpty then [' '] else g.more)
    else g.first ++ g.more
  else g.blanks

/-- Whether nothing has been read. -/
def isEmpty (g : Gap) : Bool :=
  !g.broken && g.blanks.isEmpty

/-- The gap behind one that has been read, and the cursor after it.  A tab to the left of
`margin` on a line that has just begun is refused. -/
def read (margin : Int) : Nat → Gap → Cursor → Option (Gap × Cursor)
  | 0, g, c => some (g, c)
  | fuel + 1, g, c =>
    match c.rest with
    | [] => some (g, c)
    | ch :: _ =>
      if isBlank ch then
        if g.broken then
          if ch = '\t' ∧ (c.column : Int) < margin then Option.none
          else read margin fuel g (c.skip 1)
        else read margin fuel { g with blanks := g.blanks ++ [ch] } (c.skip 1)
      else if isBreak ch then
        if g.broken then
          read margin fuel { g with more := g.more ++ c.lineEnd } c.nextLine
        else
          read margin fuel { g with blanks := [], broken := true, first := c.lineEnd } c.nextLine
      else some (g, c)

end Gap

/-! ## Plain scalars -/

/-- The brackets and the comma of flow collections. -/
def isFlowSign (c : Char) : Bool :=
  ",[]\x7b\x7d".toList.contains c

/-- A word of a plain scalar; nothing when a colon stands in it where none may. -/
def plainWord (flow : Bool) : List Char → Option (List Char)
  | [] => some []
  | c :: rest =>
    if isBlank c || isBreak c then some []
    else if flow && c == ':' && (rest.head?.any fun d => isFlowSign d || d == '?') then none
    else if (c == ':' && startsBlank rest) || (flow && isFlowSign c) then some []
    else (plainWord flow rest).map (c :: ·)

/-- The words of a plain scalar behind `text` and a gap, with the gap that follows them.  Outside
flow collections a line that begins left of `margin` is not part of it. -/
def plainFrom (flow : Bool) (margin : Int) :
    Nat → List Char → Gap → Cursor → Option (List Char × Gap × Cursor)
  | 0, _, _, _ => none
  | fuel + 1, text, g, c =>
    if c.isDocumentMark || c.rest.head? == some '#' then some (text, g, c)
    else
      match plainWord flow c.rest with
      | none => none
      | some word =>
        let (text, g) := if word.isEmpty then (text, g) else (text ++ g.text ++ word, Gap.none)
        let c := c.skip word.length
        if c.rest.isEmpty || !startsBlank c.rest then some (text, g, c)
        else
          match g.read margin (c.rest.length + 1) c with
          | none => none
          | some (g, c) =>
            if !flow && (c.column : Int) < margin then some (text, g, c)
            else plainFrom flow margin fuel text g c

/-! ## Quoted scalars -/

/-- The number of hexadecimal digits after a backslash and a letter. -/
def escapeDigits? : Char → Option Nat
  | 'x' => some 2
  | 'u' => some 4
  | 'U' => some 8
  | _ => none

/-- The character that a backslash and a letter stand for. -/
def escape? : Char → Option Char
  | '0' => some '\x00'
  | 'a' => some '\x07'
  | 'b' => some '\x08'
  | 't' | '\t' => some '\t'
  | 'n' => some '\n'
  | 'v' => some '\x0b'
  | 'f' => some '\x0c'
  | 'r' => some '\x0d'
  | 'e' => some '\x1b'
  | ' ' => some ' '
  | '"' => some '"'
  | '/' => some '/'
  | '\\' => some '\\'
  | 'N' => some '\u0085'
  | '_' => some '\u00a0'
  | 'L' => some '\u2028'
  | 'P' => some '\u2029'
  | _ => none

/-- The character of a code point, when it is one. -/
def char? (n : Nat) : Option Char :=
  if n < 0xD800 ∨ (0xDFFF < n ∧ n < 0x110000) then some (Char.ofNat n) else none

/-- What is next in a quoted scalar. -/
inductive QuotedPiece where
  | char (c : Char) (length : Nat)
  | joinedLine
  | word
  | quote

/-- The next piece of a quoted scalar; nothing for an escape that stands for no character. -/
def quotedPiece? (quote : Char) : List Char → Option QuotedPiece
  | [] => some .word
  | c :: rest =>
    if isBlank c || isBreak c then some .word
    else if c = quote then
      if quote = '\'' ∧ rest.head? = some '\'' then some (.char '\'' 2) else some .quote
    else if quote = '"' ∧ c = '\\' then
      match rest with
      | [] => none
      | e :: more =>
        if isBreak e then some .joinedLine
        else
          match escape? e, escapeDigits? e with
          | some c, _ => some (.char c 2)
          | none, some n =>
            if more.length < n then none
            else ((Numeral.read? 16 (more.take n)).bind char?).map (.char · (n + 2))
          | none, none => none
    else some (.char c 1)

/-- A quoted scalar behind `text`, up to its closing quote, and the cursor after that. -/
def quotedFrom (quote : Char) : Nat → List Char → Cursor → Option (List Char × Cursor)
  | 0, _, _ => none
  | fuel + 1, text, c =>
    if c.isDocumentMark then none
    else
      match quotedPiece? quote c.rest with
      | none => none
      | some .quote => some (text, c.skip 1)
      | some (.char ch length) => quotedFrom quote fuel (text ++ [ch]) (c.skip length)
      | some .joinedLine =>
        let c := (c.skip 1).nextLine
        match Gap.joined.read 0 (c.rest.length + 1) c with
        | none => none
        | some (g, c) => quotedFrom quote fuel (text ++ g.text) c
      | some .word =>
        if c.rest.isEmpty then none
        else
          match Gap.none.read 0 (c.rest.length + 1) c with
          | none => none
          | some (g, c) => quotedFrom quote fuel (text ++ g.text) c

/-! ## Block scalars -/

/-- What becomes of the line ends at the end of a block. -/
inductive Chomping where
  | strip
  | clip
  | keep
  deriving DecidableEq

/-- The signs after the bar or the angle: what becomes of line ends, and the depth of the lines. -/
structure BlockHeader where
  chomping : Chomping
  depth : Option Nat

/-- A sign of chomping. -/
def chomping? : Char → Option Chomping
  | '+' => some .keep
  | '-' => some .strip
  | _ => none

/-- A depth other than zero. -/
def depth? (c : Char) : Option Nat :=
  (Numeral.digitValue? 10 c).filter (0 < ·)

/-- The header of a block in either order of its signs, and how many there are. -/
def blockHeader : List Char → BlockHeader × Nat
  | a :: rest =>
    match chomping? a, depth? a with
    | some chomping, _ =>
      match rest.head?.bind depth? with
      | some depth => (⟨chomping, some depth⟩, 2)
      | none => (⟨chomping, none⟩, 1)
    | none, some depth =>
      match rest.head?.bind chomping? with
      | some chomping => (⟨chomping, some depth⟩, 2)
      | none => (⟨.clip, some depth⟩, 1)
    | none, none => (⟨.clip, none⟩, 0)
  | [] => (⟨.clip, none⟩, 0)

/-- The empty lines before the next line of a block: their line ends, the greatest column seen,
and the cursor in front of the line.  A tab where spaces are due is refused. -/
def blockGap (margin : Option Nat) :
    Nat → List Char → Nat → Cursor → Option (List Char × Nat × Cursor)
  | 0, breaks, deepest, c => some (breaks, deepest, c)
  | fuel + 1, breaks, deepest, c =>
    let spaces := (c.rest.takeWhile (· == ' ')).length
    let c := c.skip (match margin with
      | some n => min spaces (n - c.column)
      | none => spaces)
    let deepest := max deepest c.column
    match c.rest with
    | [] => some (breaks, deepest, c)
    | ch :: _ =>
      if ch = '\t' ∧ margin.all (c.column < ·) then none
      else if isBreak ch then blockGap margin fuel (breaks ++ c.lineEnd) deepest c.nextLine
      else some (breaks, deepest, c)

/-- The lines of a block behind `text`, whose last line end is `last` with the empty lines
`breaks` after it. -/
def blockLines (literal : Bool) (chomping : Chomping) (margin : Nat) :
    Nat → List Char → List Char → List Char → Bool → Cursor → Option (List Char × Cursor)
  | 0, _, _, _, _, _ => none
  | fuel + 1, text, last, breaks, afterBlank, c =>
    if c.column = margin ∧ !c.rest.isEmpty then
      let blank := c.rest.head?.any isBlank
      let folded := !literal && last == ['\n'] && !afterBlank && !blank
      let text :=
        if folded then text ++ (if breaks.isEmpty then [' '] else []) else text ++ last
      let line := c.rest.takeWhile (!isBreak ·)
      let c := c.skip line.length
      let last := if c.rest.isEmpty then [] else c.lineEnd
      match blockGap (some margin) (c.rest.length + 1) [] 0 c.nextLine with
      | none => none
      | some (breaks', _, c) =>
        blockLines literal chomping margin fuel (text ++ breaks ++ line) last breaks' blank c
    else
      let ends :=
        match chomping with
        | .strip => []
        | .clip => last
        | .keep => last ++ breaks
      some (text ++ ends, c)

/-- A block scalar behind its sign, in a collection at the column `indent`. -/
def block (literal : Bool) (indent : Int) (c : Cursor) : Option (List Char × Cursor) := do
  let (header, length) := blockHeader c.rest
  let c ← (c.skip length).finishLine?
  let outer := indent.toNat
  let given := header.depth.map (outer + ·)
  let (breaks, deepest, c) ← blockGap given (c.rest.length + 1) [] 0 c
  let margin := given.getD (max deepest (max (indent + 1).toNat 1))
  blockLines literal header.chomping margin (c.rest.length + 1) [] [] breaks false c

end Yaml

end Onboarding
