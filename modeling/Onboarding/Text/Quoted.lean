import Onboarding.Text.Numeral
import Onboarding.Text.Unprintable

/-!
# Quoted text

Text between double quotes, for messages that have to show exactly what a value holds.  The
quote, the backslash and the common controls have escapes of their own; every other character
that shows nothing by itself is written by its code point.
-/

namespace Onboarding

namespace Text

/-- One character of quoted text. -/
def quoteChar (c : Char) : List Char :=
  if c = '"' then ['\\', '"']
  else if c = '\\' then ['\\', '\\']
  else if c = '\n' then ['\\', 'n']
  else if c = '\r' then ['\\', 'r']
  else if c = '\t' then ['\\', 't']
  else if c.toNat = 0 then ['\\', '0']
  else if isUnprintable c then ['\\', 'u', '\x7b'] ++ Numeral.hex c.toNat ++ ['\x7d']
  else [c]

/-- Text between quotes. -/
def quoted (s : String) : String :=
  String.ofList ('"' :: s.toList.flatMap quoteChar ++ ['"'])

end Text

end Onboarding
