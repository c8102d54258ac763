import Onboarding.Shell.Arithmetic
import Onboarding.Shell.Machine

/-!
# Conditions

What the arguments of `test` say about text, numbers and files.
-/

namespace Onboarding

namespace Shell

namespace Condition

/-- A test of one argument. -/
def one? (m : Machine) (operator argument : Chars) : Option Bool :=
  let path := Chars.toPath argument
  match String.ofList operator with
  | "-n" => some (!argument.isEmpty)
  | "-z" => some argument.isEmpty
  | "-e" | "-r" | "-w" => some (m.files.exists? m.here path)
  | "-f" => some (m.files.isFile m.here path)
  | "-d" => some (m.files.isDirectory m.here path)
  | "-x" =>
    match m.files.find m.here path with
    | .ok (_, .file _ executable) => some executable
    | .ok (_, .void) | .error _ => some false
    | .ok _ => some true
  | "-s" =>
    match m.files.find m.here path with
    | .ok (_, .file content _) => some (!content.isEmpty)
    | .ok _ => some true
    | .error _ => some false
  | "-t" | "-L" | "-h" | "-p" | "-S" | "-b" | "-c" => some false
  | _ => none

/-- A comparison of two numbers. -/
def compare? : String → Option (Int → Int → Bool)
  | "-eq" => some fun a b => a == b
  | "-ne" => some fun a b => a != b
  | "-lt" => some fun a b => decide (a < b)
  | "-le" => some fun a b => decide (a ≤ b)
  | "-gt" => some fun a b => decide (b < a)
  | "-ge" => some fun a b => decide (b ≤ a)
  | _ => none

/-- A test of two arguments, or what is said about one that is no number. -/
def two? (a operator b : Chars) : Option (Except Chars Bool) :=
  match String.ofList operator with
  | "=" | "==" => some (.ok (a == b))
  | "!=" => some (.ok (a != b))
  | operator =>
    (compare? operator).map fun compare =>
      match Arithmetic.integer? a, Arithmetic.integer? b with
      | some x, some y => .ok (compare x y)
      | none, _ => .error (ofString "Illegal number: " ++ a)
      | _, none => .error (ofString "Illegal number: " ++ b)

mutual

/-- A test without a sign between tests, and what follows it. -/
def primary (m : Machine) : Nat → List Chars → Except Chars (Bool × List Chars)
  | 0, _ => .error (ofString "unexpected operator")
  | _, [] => .ok (false, [])
  | fuel + 1, ['!'] :: first :: rest =>
    match primary m fuel (first :: rest) with
    | .ok (b, rest) => .ok (!b, rest)
    | .error e => .error e
  | fuel + 1, a :: operator :: b :: rest =>
    match two? a operator b with
    | some (.ok value) => .ok (value, rest)
    | some (.error e) => .error e
    | none =>
      if a == ['('] then
        match joined m fuel (operator :: b :: rest) with
        | .ok (value, [')'] :: rest) => .ok (value, rest)
        | .ok _ => .error (ofString "closing paren expected")
        | .error e => .error e
      else
        match one? m a operator with
        | some value => .ok (value, b :: rest)
        | none => .ok (!a.isEmpty, operator :: b :: rest)
  | _, [operator, argument] =>
    match one? m operator argument with
    | some value => .ok (value, [])
    | none => .ok (!operator.isEmpty, [argument])
  | _, [argument] => .ok (!argument.isEmpty, [])

/-- Tests joined by `-a` and `-o`, of which the former binds more tightly. -/
def joined (m : Machine) : Nat → List Chars → Except Chars (Bool × List Chars)
  | 0, _ => .error (ofString "unexpected operator")
  | fuel + 1, arguments =>
    match primary m fuel arguments with
    | .error e => .error e
    | .ok (a, ['-', 'a'] :: rest) =>
      match joined m fuel rest with
      | .ok (b, rest) => .ok (a && b, rest)
      | .error e => .error e
    | .ok (a, ['-', 'o'] :: rest) =>
      match joined m fuel rest with
      | .ok (b, rest) => .ok (a || b, rest)
      | .error e => .error e
    | .ok r => .ok r

end

/-- What arguments say, or what is said about them. -/
def holds (m : Machine) (arguments : List Chars) : Except Chars Bool :=
  match joined m (2 * arguments.length + 2) arguments with
  | .ok (b, []) => .ok b
  | .ok (_, extra :: _) => .error (extra ++ ofString ": unexpected operator")
  | .error e => .error e

end Condition

end Shell

end Onboarding
