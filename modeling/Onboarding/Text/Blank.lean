import Onboarding.Text.Utf8

/-!
# Blanks

The characters that count as white space, and trimming.  Text is trimmed of every character
with the Unicode property White_Space; raw octets are trimmed of the five ASCII blanks only.
-/

namespace Onboarding

namespace Text

/-- White space in the sense of Unicode. -/
def isBlank (c : Char) : Bool :=
  let n := c.toNat
  (0x9 ≤ n && n ≤ 0xD) || n == 0x20 || n == 0x85 || n == 0xA0 || n == 0x1680
    || (0x2000 ≤ n && n ≤ 0x200A) || n == 0x2028 || n == 0x2029 || n == 0x202F
    || n == 0x205F || n == 0x3000

/-- A list without the elements at either end that satisfy `p`. -/
def trimBy {α : Type} (p : α → Bool) (xs : List α) : List α :=
  ((xs.dropWhile p).reverse.dropWhile p).reverse

/-- Text without the blanks at either end. -/
def trimChars (text : List Char) : List Char :=
  trimBy isBlank text

/-- A string without the blanks at either end. -/
def trim (s : String) : String :=
  String.ofList (trimChars s.toList)

/-- A string that holds blanks only. -/
def isBlankText (s : String) : Bool :=
  s.toList.all isBlank

/-- The ASCII blanks: space, tab, line feed, form feed and carriage return. -/
def isBlankOctet (b : UInt8) : Bool :=
  b == 0x20 || b == 0x9 || b == 0xA || b == 0xC || b == 0xD

/-- Octets without the ASCII blanks at either end. -/
def trimOctets (bytes : Bytes) : Bytes :=
  trimBy isBlankOctet bytes

end Text

end Onboarding
