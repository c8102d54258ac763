import Onboarding.Shell.Command

/-!
# Shell patterns

What a word matches: a star any text, a question mark one character, and characters in brackets
one of them.  What is quoted matches itself.
-/

namespace Onboarding

namespace Shell

/-- A step of a pattern. -/
inductive Glob where
  | any
  | one
  | char (c : Char)
  | oneOf (among : Bool) (ranges : List (Char × Char))

namespace Glob

/-- Whether a range holds a character. -/
def inRange (c : Char) (range : Char × Char) : Bool :=
  range.1 ≤ c && c ≤ range.2

/-- The ranges between brackets. -/
def ranges : Chars → List (Char × Char)
  | a :: '-' :: b :: rest => (a, b) :: ranges rest
  | a :: rest => (a, a) :: ranges rest
  | [] => []

/-- What follows an opening bracket, as a step and the number of characters that it takes;
nothing when no bracket closes it. -/
def brackets? (text : Chars) : Option (Glob × Nat) :=
  let (negated, body) : Bool × Chars :=
    match text with
    | '!' :: rest => (true, rest)
    | rest => (false, rest)
  let inside :=
    match body with
    | ']' :: rest => ']' :: rest.takeWhile (· != ']')
    | rest => rest.takeWhile (· != ']')
  if inside.length < body.length then
    some (.oneOf (!negated) (ranges inside), inside.length + (if negated then 2 else 1))
  else none

/-- The steps of unquoted text; the first `skip` characters are part of a step before. -/
def ofPlainFrom : Nat → Chars → List Glob
  | _, [] => []
  | skip + 1, _ :: rest => ofPlainFrom skip rest
  | 0, '*' :: rest => .any :: ofPlainFrom 0 rest
  | 0, '?' :: rest => .one :: ofPlainFrom 0 rest
  | 0, '[' :: rest =>
    match brackets? rest with
    | some (step, taken) => step :: ofPlainFrom taken rest
    | none => .char '[' :: ofPlainFrom 0 rest
  | 0, c :: rest => .char c :: ofPlainFrom 0 rest

/-- The steps of unquoted text. -/
def ofPlain (text : Chars) : List Glob :=
  ofPlainFrom 0 text

/-- The steps of quoted text. -/
def ofQuoted (text : Chars) : List Glob :=
  text.map .char

/-- Text with each of its ends, the whole first. -/
def tails : Chars → List Chars
  | [] => [[]]
  | c :: rest => (c :: rest) :: tails rest

/-- Whether a pattern matches all of a text. -/
def accepts : List Glob → Chars → Bool
  | [], text => text.isEmpty
  | .any :: steps, text => (tails text).any (accepts steps)
  | _ :: _, [] => false
  | .one :: steps, _ :: rest => accepts steps rest
  | .char c :: steps, d :: rest => c == d && accepts steps rest
  | .oneOf among ranges :: steps, d :: rest =>
    ranges.any (inRange d) == among && accepts steps rest

/-- Text without the part in front that a pattern matches, the longest or the shortest. -/
def cutFront (longest : Bool) (steps : List Glob) (text : Chars) : Chars :=
  let lengths := List.range (text.length + 1)
  let lengths := if longest then lengths.reverse else lengths
  match lengths.find? fun n => accepts steps (text.take n) with
  | some n => text.drop n
  | none => text

/-- Text without the part at the end that a pattern matches, the longest or the shortest. -/
def cutBack (longest : Bool) (steps : List Glob) (text : Chars) : Chars :=
  let lengths := List.range (text.length + 1)
  let lengths := if longest then lengths else lengths.reverse
  match lengths.find? fun n => accepts steps (text.drop n) with
  | some n => text.take n
  | none => text

end Glob

end Shell

end Onboarding
