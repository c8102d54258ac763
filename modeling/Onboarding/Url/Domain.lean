import Onboarding.Text.Composition
import Onboarding.Url.DomainTable
import Onboarding.Url.Punycode

/-!
# Domain names

A domain name in ASCII.  Characters are mapped and composed, dots of other scripts included, and
a label outside ASCII is written in Punycode after `xn--`; a label that is already written so
has to stand for a label that this would write the same way.  Labels may be empty and of any
length.
-/

namespace Onboarding

namespace Url

namespace Domain

/-- The ASCII characters that no domain name may hold. -/
def isRefusedAscii (c : Char) : Bool :=
  c.toNat ≤ 0x20 || c.toNat == 0x7F || "#/:<>?@[\\]^|%".toList.contains c

/-- An ASCII letter in lower case. -/
def lower (c : Char) : Char :=
  if 'A' ≤ c ∧ c ≤ 'Z' then Char.ofNat (c.toNat + 32) else c

/-- What a character becomes; nothing when it is refused. -/
def mapChar? (c : Char) : Option (List Char) :=
  if c.toNat < 0x80 then some [lower c]
  else
    match CodeTable.image? domainMapping c with
    | some mapped => some mapped
    | none => if CodeTable.holds domainRefused c then none else some [c]

/-- Text with every character mapped. -/
def map? : List Char → Option (List Char)
  | [] => some []
  | c :: rest =>
    match mapChar? c, map? rest with
    | some mapped, some more => some (mapped ++ more)
    | _, _ => none

/-- Whether text is within ASCII. -/
def isAscii (text : List Char) : Bool :=
  text.all (·.toNat < 0x80)

/-- Whether a label outside ASCII begins with a character that can begin one. -/
def beginsWell : List Char → Bool
  | [] => false
  | c :: _ => !CodeTable.holds domainMarks c

/-- A label in ASCII. -/
def label? (label : List Char) : Option (List Char) :=
  if label.take 4 == "xn--".toList then
    match Punycode.decode? (label.drop 4) with
    | none => none
    | some text =>
      if isAscii text || map? text != some text || Text.composed text != text || !beginsWell text
      then none
      else some label
  else if isAscii label then some label
  else if beginsWell label then some ("xn--".toList ++ Punycode.encode label)
  else none

/-- All labels in ASCII. -/
def labels? : List (List Char) → Option (List (List Char))
  | [] => some []
  | label :: rest =>
    match label? label, labels? rest with
    | some l, some ls => some (l :: ls)
    | _, _ => none

/-- A domain name in ASCII; nothing for a name that has none. -/
def toAscii? (domain : List Char) : Option (List Char) :=
  match map? domain with
  | none => none
  | some mapped =>
    let mapped := if isAscii mapped then mapped else Text.composed mapped
    match labels? (Split.pieces (· == '.') mapped) with
    | none => none
    | some labels =>
      let name := Split.joined '.' labels
      if name.any isRefusedAscii then none else some name

end Domain

end Url

end Onboarding
