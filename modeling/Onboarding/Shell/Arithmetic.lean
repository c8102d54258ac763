import Onboarding.Shell.Command
import Onboarding.Text.Numeral

/-!
# Shell arithmetic

Expressions over integers: the operators of the shell but assignments, with their usual
precedence.  `evaluate?` gives nothing for what is no expression and for a division by zero.
-/

namespace Onboarding

namespace Shell

namespace Arithmetic

/-- A token of an expression. -/
inductive Token where
  | number (value : Int)
  | sign (text : String)
  deriving DecidableEq

/-- The signs, longer ones before those that they begin with. -/
def signs : List String :=
  ["&&", "||", "<<", ">>", "<=", ">=", "==", "!=", "<", ">", "+", "-", "*", "/", "%", "!", "~",
    "&", "^", "|", "?", ":", "(", ")"]

/-- A number: decimal, octal after `0`, hexadecimal after `0x`. -/
def number? : Chars → Option Nat
  | '0' :: 'x' :: digits | '0' :: 'X' :: digits => Numeral.read? 16 digits
  | '0' :: d :: digits => Numeral.read? 8 (d :: digits)
  | digits => Numeral.read? 10 digits

/-- A number with a sign. -/
def integer? : Chars → Option Int
  | '-' :: digits => (number? digits).map fun n => -(n : Int)
  | '+' :: digits => (number? digits).map Int.ofNat
  | digits => (number? digits).map Int.ofNat

/-- The tokens of a text; names have the value that `value` gives them, zero when it is empty. -/
def tokens (value : Chars → Chars) : Nat → Chars → Option (List Token)
  | 0, _ => none
  | _, [] => some []
  | fuel + 1, c :: rest =>
    if c == ' ' || c == '\t' || c == '\n' then tokens value fuel rest
    else if c.isDigit then
      let digits := (c :: rest).takeWhile Char.isAlphanum
      match number? digits with
      | some n => (tokens value fuel ((c :: rest).drop digits.length)).map (.number n :: ·)
      | none => none
    else if c.isAlpha || c == '_' then
      let name := (c :: rest).takeWhile fun c => c.isAlphanum || c == '_'
      let text := value name
      let number := if text.isEmpty then some 0 else integer? text
      match number with
      | some n => (tokens value fuel ((c :: rest).drop name.length)).map (.number n :: ·)
      | none => none
    else
      match signs.find? fun s => s.toList.isPrefixOf (c :: rest) with
      | some s => (tokens value fuel ((c :: rest).drop s.length)).map (.sign s :: ·)
      | none => none

/-- How tightly a sign between two operands binds. -/
def strength? : String → Option Nat
  | "||" => some 1
  | "&&" => some 2
  | "|" => some 3
  | "^" => some 4
  | "&" => some 5
  | "==" | "!=" => some 6
  | "<" | ">" | "<=" | ">=" => some 7
  | "<<" | ">>" => some 8
  | "+" | "-" => some 9
  | "*" | "/" | "%" => some 10
  | _ => none

/-- One for true, zero for false. -/
def truth (b : Bool) : Int :=
  if b then 1 else 0

/-- A sign between two operands. -/
def operate? (a b : Int) : String → Option Int
  | "||" => some (truth (a != 0 || b != 0))
  | "&&" => some (truth (a != 0 && b != 0))
  | "==" => some (truth (a == b))
  | "!=" => some (truth (a != b))
  | "<" => some (truth (decide (a < b)))
  | ">" => some (truth (decide (b < a)))
  | "<=" => some (truth (decide (a ≤ b)))
  | ">=" => some (truth (decide (b ≤ a)))
  | "+" => some (a + b)
  | "-" => some (a - b)
  | "*" => some (a * b)
  | "/" => if b == 0 then none else some (a.tdiv b)
  | "%" => if b == 0 then none else some (a.tmod b)
  | "<<" => some (a * Int.ofNat (Nat.pow 2 b.toNat))
  | ">>" => some (a / Int.ofNat (Nat.pow 2 b.toNat))
  | "&" => some (Int.ofNat (a.toNat &&& b.toNat))
  | "|" => some (Int.ofNat (a.toNat ||| b.toNat))
  | "^" => some (Int.ofNat (a.toNat ^^^ b.toNat))
  | _ => none

mutual

/-- An operand with the signs in front of it. -/
def operand : Nat → List Token → Option (Int × List Token)
  | 0, _ => none
  | _, .number n :: rest => some (n, rest)
  | fuel + 1, .sign "-" :: rest => (operand fuel rest).map fun r => (-r.1, r.2)
  | fuel + 1, .sign "+" :: rest => operand fuel rest
  | fuel + 1, .sign "!" :: rest => (operand fuel rest).map fun r => (truth (r.1 == 0), r.2)
  | fuel + 1, .sign "~" :: rest => (operand fuel rest).map fun r => (-r.1 - 1, r.2)
  | fuel + 1, .sign "(" :: rest =>
    match choice fuel rest with
    | some (n, .sign ")" :: rest) => some (n, rest)
    | _ => none
  | _, _ => none

/-- Operands joined by signs that bind at least as tightly as `least`, behind the first. -/
def joined : Nat → Nat → Int → List Token → Option (Int × List Token)
  | 0, _, _, _ => none
  | fuel + 1, least, a, .sign s :: rest =>
    match strength? s with
    | none => some (a, .sign s :: rest)
    | some strength =>
      if strength < least then some (a, .sign s :: rest)
      else
        match operand fuel rest with
        | none => none
        | some (b, rest) =>
          match joined fuel (strength + 1) b rest with
          | none => none
          | some (b, rest) =>
            match operate? a b s with
            | none => none
            | some n => joined fuel least n rest
  | _, _, a, rest => some (a, rest)

/-- An expression, or a choice by one. -/
def choice : Nat → List Token → Option (Int × List Token)
  | 0, _ => none
  | fuel + 1, ts =>
    match (operand fuel ts).bind fun r => joined fuel 1 r.1 r.2 with
    | some (n, .sign "?" :: rest) =>
      match choice fuel rest with
      | some (a, .sign ":" :: rest) =>
        (choice fuel rest).map fun r => (if n == 0 then r.1 else a, r.2)
      | _ => none
    | r => r

end

/-- The value of an expression. -/
def evaluate? (value : Chars → Chars) (text : Chars) : Option Int :=
  match tokens value (text.length + 1) text with
  | none => none
  | some [] => some 0
  | some ts =>
    match choice (4 * ts.length + 4) ts with
    | some (n, []) => some n
    | _ => none

/-- An integer in decimal digits. -/
def decimal (n : Int) : Chars :=
  if n < 0 then '-' :: Numeral.decimal n.natAbs else Numeral.decimal n.natAbs

end Arithmetic

end Shell

end Onboarding
