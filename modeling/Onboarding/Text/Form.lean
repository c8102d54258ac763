import Onboarding.Text.Percent
import Onboarding.Text.Split

/-!
# Form data

Pairs of names and values as one line of text, in the format
`application/x-www-form-urlencoded`.  `encode` writes pairs and `decode` reads them back.
-/

namespace Onboarding

namespace Form

/-! ## Writing -/

/-- The octets that stand for themselves. -/
def isPlain (b : UInt8) : Bool :=
  (0x30 ≤ b && b ≤ 0x39) || (0x41 ≤ b && b ≤ 0x5A) || (0x61 ≤ b && b ≤ 0x7A)
    || b == 0x2A || b == 0x2D || b == 0x2E || b == 0x5F

/-- One octet of a name or a value; a space becomes a plus sign. -/
def encodeOctet (b : UInt8) : List Char :=
  if b = 0x20 then ['+']
  else if isPlain b then [Char.ofNat b.toNat]
  else Percent.escape b

/-- A name or a value. -/
def encodeText (s : String) : List Char :=
  (Utf8.ofString s).flatMap encodeOctet

/-- A pair. -/
def encodePair (pair : String × String) : List Char :=
  encodeText pair.1 ++ '=' :: encodeText pair.2

/-- Text with a pair after it, set off by an ampersand from what stands there. -/
def append (text : List Char) (pair : String × String) : List Char :=
  if text.isEmpty then encodePair pair else text ++ '&' :: encodePair pair

/-- Pairs in order. -/
def encode (pairs : List (String × String)) : List Char :=
  pairs.foldl append []

/-! ## Reading -/

/-- The text of a name or a value. -/
def decodeText (octets : Bytes) : String :=
  Utf8.toStringLossy (Percent.decode (octets.map (fun b => if b = 0x2B then 0x20 else b)))

/-- A piece as a pair; without an equals sign it is a name with an empty value. -/
def decodePair (piece : Bytes) : String × String :=
  (decodeText (piece.takeWhile (· != 0x3D)), decodeText ((piece.dropWhile (· != 0x3D)).drop 1))

/-- The pairs that text holds.  Empty pieces hold none. -/
def decode (text : List Char) : List (String × String) :=
  ((Split.pieces (· == 0x26) (Utf8.encode text)).filter (!·.isEmpty)).map decodePair

end Form

end Onboarding
