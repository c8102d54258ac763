import Onboarding.Text.Numeral
import Onboarding.Text.Split

/-!
# IPv6 addresses

Eight groups of up to four hexadecimal digits with colons between them.  A double colon stands
for groups of zeros, and the last two groups may be written as an IPv4 address in four decimal
numbers.  An address is written in lower case with its longest run of two or more zero groups as
a double colon.
-/

namespace Onboarding

namespace Url

namespace Ipv6

/-! ## Reading -/

/-- A decimal number below 256 without leading zeros. -/
def octet? (digits : List Char) : Option Nat :=
  if digits.isEmpty || (digits.head? == some '0' && 1 < digits.length) || 3 < digits.length then none
  else (Numeral.read? 10 digits).filter (· < 256)

/-- The two groups that an IPv4 address makes. -/
def ipv4Groups? (text : List Char) : Option (List Nat) :=
  match (Split.pieces (· == '.') text).map octet? with
  | [some a, some b, some c, some d] => some [a * 256 + b, c * 256 + d]
  | _ => none

/-- One group in hexadecimal digits. -/
def group? (digits : List Char) : Option Nat :=
  if 4 < digits.length then none else Numeral.read? 16 digits

/-- Groups, of which only the last may be an IPv4 address and only where `tail`. -/
def groups? (tail : Bool) : List (List Char) → Option (List Nat)
  | [] => some []
  | [last] =>
    if last.contains '.' then (if tail then ipv4Groups? last else none)
    else (group? last).map ([·])
  | digits :: rest =>
    match group? digits, groups? tail rest with
    | some g, some gs => some (g :: gs)
    | _, _ => none

/-- Text cut at colons; no text holds no groups. -/
def groupTexts (text : List Char) : List (List Char) :=
  if text.isEmpty then [] else Split.pieces (· == ':') text

/-- Text before and after the first double colon. -/
def cutDouble : List Char → Option (List Char × List Char)
  | ':' :: ':' :: rest => some ([], rest)
  | c :: rest => (cutDouble rest).map (fun r => (c :: r.1, r.2))
  | [] => none

/-- The eight groups that text names. -/
def parse? (text : List Char) : Option (List Nat) :=
  match cutDouble text with
  | none => (groups? true (groupTexts text)).filter (·.length = 8)
  | some (before, after) =>
    match groups? false (groupTexts before), groups? true (groupTexts after) with
    | some front, some back =>
      if front.length + back.length < 8 then
        some (front ++ List.replicate (8 - front.length - back.length) 0 ++ back)
      else none
    | _, _ => none

/-! ## Writing -/

/-- How many zero groups stand in front. -/
def zeros (groups : List Nat) : Nat :=
  (groups.takeWhile (· == 0)).length

/-- The place and the length of the longest run of zero groups, the first of equals, where
`place` groups came before. -/
def longestRun (place : Nat) : List Nat → Nat × Nat
  | [] => (place, 0)
  | g :: rest =>
    let here := zeros (g :: rest)
    let (later, length) := longestRun (place + 1) rest
    if length ≤ here then (place, here) else (later, length)

/-- Groups with colons between them. -/
def plain (groups : List Nat) : List Char :=
  Split.joined ':' (groups.map Numeral.hex)

/-- An address as text. -/
def text (groups : List Nat) : List Char :=
  let (place, length) := longestRun 0 groups
  if length < 2 then plain groups
  else plain (groups.take place) ++ ':' :: ':' :: plain (groups.drop (place + length))

end Ipv6

end Url

end Onboarding
