import Onboarding.Text.Numeral
import Onboarding.Text.Split

/-!
# IPv4 addresses

A host whose last label is a number is an address.  It has up to four numbers, each in decimal,
octal (after `0`) or hexadecimal (after `0x`) digits, and the last one fills the octets that the
others leave.
-/

namespace Onboarding

namespace Url

namespace Ipv4

/-- The labels of a host; a final dot adds none. -/
def labels (host : List Char) : List (List Char) :=
  let all := Split.pieces (· == '.') host
  if all.getLast? = some [] then all.dropLast else all

/-- The number that a label is. -/
def number? : List Char → Option Nat
  | [] => none
  | '0' :: 'x' :: digits => if digits.isEmpty then some 0 else Numeral.read? 16 digits
  | '0' :: 'X' :: digits => if digits.isEmpty then some 0 else Numeral.read? 16 digits
  | ['0'] => some 0
  | '0' :: digits => Numeral.read? 8 digits
  | digits => Numeral.read? 10 digits

/-- Whether the last label is a number, or looks like one by its digits. -/
def isNumeric (host : List Char) : Bool :=
  match (labels host).getLast? with
  | none => false
  | some label => (!label.isEmpty && label.all (Numeral.isDigit 10)) || (number? label).isSome

/-- All numbers before the last as octets, most significant first, and the last one below them. -/
def assemble : Nat → List Nat → Option Nat
  | _, [] => none
  | room, [last] => if last < 256 ^ room then some last else none
  | 0, _ => none
  | room + 1, n :: rest =>
    if n < 256 then (assemble room rest).map (n * 256 ^ room + ·) else none

/-- The address that a host is. -/
def parse? (host : List Char) : Option Nat :=
  let parts := labels host
  if 4 < parts.length then none
  else
    let numbers := parts.filterMap number?
    if numbers.length = parts.length then assemble 4 numbers else none

/-- An address in four decimal numbers. -/
def text (address : Nat) : List Char :=
  Split.joined '.'
    ([address / 16777216 % 256, address / 65536 % 256, address / 256 % 256, address % 256].map
      Numeral.decimal)

end Ipv4

end Url

end Onboarding
