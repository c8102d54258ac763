/-!
# Numerals

Reading and writing natural numbers in bases up to sixteen.
-/

namespace Onboarding

namespace Numeral

/-- The value of a digit, when it is one of `base`. -/
def digitValue? (base : Nat) (c : Char) : Option Nat :=
  let n := c.toNat
  let v? :=
    if 48 ≤ n ∧ n ≤ 57 then some (n - 48)
    else if 97 ≤ n ∧ n ≤ 102 then some (n - 87)
    else if 65 ≤ n ∧ n ≤ 70 then some (n - 55)
    else none
  v?.filter (· < base)

/-- The value of digits written after a number `value`; nothing when one is no digit. -/
def readFrom (base : Nat) : Nat → List Char → Option Nat
  | value, [] => some value
  | value, c :: rest =>
    match digitValue? base c with
    | some d => readFrom base (value * base + d) rest
    | none => none

/-- The value of a numeral of at least one digit. -/
def read? (base : Nat) : List Char → Option Nat
  | [] => none
  | digits => readFrom base 0 digits

/-- Whether a character is a digit of `base`. -/
def isDigit (base : Nat) (c : Char) : Bool :=
  (digitValue? base c).isSome

/-- A digit below sixteen, in lower case. -/
def digit (d : Nat) : Char :=
  if d < 10 then Char.ofNat (48 + d) else Char.ofNat (87 + d)

/-- A digit below sixteen, in upper case. -/
def digitUpper (d : Nat) : Char :=
  if d < 10 then Char.ofNat (48 + d) else Char.ofNat (55 + d)

/-- A number in decimal digits. -/
def decimal (n : Nat) : List Char :=
  Nat.toDigits 10 n

/-- A number in hexadecimal digits, in lower case. -/
def hex (n : Nat) : List Char :=
  Nat.toDigits 16 n

/-- A number in exactly four hexadecimal digits, in lower case. -/
def hex4 (n : Nat) : List Char :=
  [digit (n / 4096 % 16), digit (n / 256 % 16), digit (n / 16 % 16), digit (n % 16)]

end Numeral

end Onboarding
