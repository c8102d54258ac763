import Onboarding.Text.Utf8
import Onboarding.Text.Numeral

/-!
# Percent encoding

An octet that may not stand for itself is written as a percent sign and two hexadecimal digits
in upper case.  Octets outside ASCII are always written so; which others are, is a set of its own
for each part of a URL.
-/

namespace Onboarding

namespace Percent

/-! ## Sets -/

/-- A set of ASCII octets. -/
abbrev Escapes := UInt8 → Bool

/-- A set with more characters in it. -/
def Escapes.with (e : Escapes) (more : List Char) : Escapes :=
  fun b => e b || more.any (fun c => c.toNat == b.toNat)

/-- The control characters. -/
def controls : Escapes :=
  fun b => b < 0x20 || b == 0x7F

/-- What is escaped in a fragment. -/
def fragment : Escapes :=
  controls.with [' ', '"', '<', '>', '\x60']

/-- What is escaped in a path. -/
def path : Escapes :=
  fragment.with ['#', '?', '\x7b', '\x7d']

/-- What is escaped in user information. -/
def userinfo : Escapes :=
  path.with ['/', ':', ';', '=', '@', '[', '\\', ']', '^', '|']

/-- What is escaped in one segment of a path, so that it stays one segment. -/
def segment : Escapes :=
  path.with ['/', '%']

/-- `segment` where a backslash separates segments too. -/
def specialSegment : Escapes :=
  segment.with ['\\']

/-- What is escaped in a query. -/
def query : Escapes :=
  controls.with [' ', '"', '#', '<', '>']

/-- `query` for the web schemes. -/
def specialQuery : Escapes :=
  query.with ['\x27']

/-! ## Writing and reading -/

/-- An octet as a percent sign and two digits. -/
def escape (b : UInt8) : List Char :=
  ['%', Numeral.digitUpper (b.toNat / 16), Numeral.digitUpper (b.toNat % 16)]

/-- An octet, escaped when it has to be. -/
def encodeOctet (e : Escapes) (b : UInt8) : List Char :=
  if b < 0x80 ∧ !e b then [Char.ofNat b.toNat] else escape b

/-- Text with the octets of a set escaped. -/
def encode (e : Escapes) (text : List Char) : List Char :=
  (Utf8.encode text).flatMap (encodeOctet e)

/-- The octet that three octets stand for, when they are a percent sign and two digits. -/
def unescape? (b high low : UInt8) : Option UInt8 :=
  match Numeral.digitValue? 16 (Char.ofNat high.toNat), Numeral.digitValue? 16 (Char.ofNat low.toNat) with
  | some h, some l => if b = 0x25 then some (UInt8.ofNat (h * 16 + l)) else none
  | _, _ => none

/-- The octets that text stands for; a percent sign without two digits stands for itself. -/
def decode : Bytes → Bytes
  | b :: high :: low :: rest =>
    match unescape? b high low with
    | some octet => octet :: decode rest
    | none => b :: decode (high :: low :: rest)
  | short => short

end Percent

end Onboarding
