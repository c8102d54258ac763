/-!
# Shell commands

The commands of a script as they are written, before anything in them has a value.  A script is
handled octet by octet: each octet is the character of its number.
-/

namespace Onboarding

namespace Shell

/-- Text of a script: one character for each octet. -/
abbrev Chars : Type :=
  List Char

/-- How a redirection changes a descriptor. -/
inductive Direction where
  | input
  | output
  | append
  | sameAs
  deriving DecidableEq

mutual

/-- A part of a word.  What is quoted is neither split nor matched. -/
inductive Part where
  | plain (text : Chars)
  | quoted (text : Chars)
  | parameter (quoted : Bool) (name : Chars) (use : Use)
  | output (quoted : Bool) (body : Command)
  | arithmetic (quoted : Bool) (expression : List Part)

/-- What is made of the value of a parameter.  `emptyToo` treats an empty value as none. -/
inductive Use where
  | value
  | length
  | orElse (emptyToo : Bool) (word : List Part)
  | assign (emptyToo : Bool) (word : List Part)
  | insist (emptyToo : Bool) (word : List Part)
  | whenSet (emptyToo : Bool) (word : List Part)
  | cutFront (longest : Bool) (pattern : List Part)
  | cutBack (longest : Bool) (pattern : List Part)

/-- A redirection of a descriptor to what a word names. -/
inductive Redirection where
  | named (descriptor : Nat) (direction : Direction) (target : List Part)
  | here (descriptor : Nat) (text : List Part)

/-- A command. -/
inductive Command where
  | simple (line : Nat) (assignments : List (Chars × List Part)) (words : List (List Part))
      (redirections : List Redirection)
  | redirected (body : Command) (redirections : List Redirection)
  | sequence (commands : List Command)
  | pipe (commands : List Command)
  | negated (body : Command)
  | both (first second : Command)
  | either (first second : Command)
  | subshell (body : Command)
  | choice (branches : List (Command × Command)) (otherwise : Option Command)
  | loop (while? : Bool) (condition body : Command)
  | each (name : Chars) (words : Option (List (List Part))) (body : Command)
  | select (word : List Part) (arms : List (List (List Part) × Command))
  | define (name : Chars) (body : Command)

end

/-- A word. -/
abbrev Word : Type :=
  List Part

end Shell

end Onboarding
