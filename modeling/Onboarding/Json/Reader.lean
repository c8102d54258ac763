import Onboarding.Json.Basic

/-!
# Reading JSON

`parse?` reads octets that hold one value with blanks around it.  Each reader takes octets and
gives what it read with the octets after it, or nothing when they do not begin so.
-/

namespace Onboarding

namespace Json

/-! ## Blanks -/

/-- The blanks between tokens: space, tab, line feed and carriage return. -/
def isGap (b : UInt8) : Bool :=
  b == 0x20 || b == 0x9 || b == 0xA || b == 0xD

/-- Octets without the blanks in front. -/
def skipGap (bytes : Bytes) : Bytes :=
  bytes.dropWhile isGap

/-! ## Strings -/

/-- A piece of a string literal: an octet of its text, or a code unit of UTF-16. -/
inductive Piece where
  | octet (b : UInt8)
  | unit (n : Nat)

/-- The octet that a backslash and a letter stand for. -/
def shortEscape? (b : UInt8) : Option UInt8 :=
  if b = 0x22 ∨ b = 0x5C ∨ b = 0x2F then some b
  else if b = 0x62 then some 0x8
  else if b = 0x66 then some 0xC
  else if b = 0x6E then some 0xA
  else if b = 0x72 then some 0xD
  else if b = 0x74 then some 0x9
  else none

/-- Where a reader of a literal stands: in plain text, after a backslash, or before the last
`left + 1` digits of a code unit. -/
inductive LiteralState where
  | plain
  | escape
  | digits (left value : Nat)

/-- The pieces of a literal up to its closing quote. -/
def readPieces : LiteralState → Bytes → Option (List Piece × Bytes)
  | _, [] => none
  | .plain, b :: rest =>
    if b = 0x22 then some ([], rest)
    else if b = 0x5C then readPieces .escape rest
    else if b < 0x20 then none
    else (readPieces .plain rest).map (fun r => (.octet b :: r.1, r.2))
  | .escape, b :: rest =>
    if b = 0x75 then readPieces (.digits 3 0) rest
    else
      match shortEscape? b with
      | some o => (readPieces .plain rest).map (fun r => (.octet o :: r.1, r.2))
      | none => none
  | .digits left value, b :: rest =>
    match Numeral.digitValue? 16 (Char.ofNat b.toNat) with
    | none => none
    | some d =>
      match left with
      | 0 => (readPieces .plain rest).map (fun r => (.unit (value * 16 + d) :: r.1, r.2))
      | left + 1 => readPieces (.digits left (value * 16 + d)) rest

/-- The first half of a surrogate pair. -/
def isHighHalf (n : Nat) : Bool :=
  0xD800 ≤ n && n ≤ 0xDBFF

/-- The second half of a surrogate pair. -/
def isLowHalf (n : Nat) : Bool :=
  0xDC00 ≤ n && n ≤ 0xDFFF

/-- The octets of the text that pieces stand for; nothing when half of a pair stands alone. -/
def joinPieces : List Piece → Option Bytes
  | [] => some []
  | .octet b :: rest => (joinPieces rest).map (b :: ·)
  | .unit high :: .unit low :: rest =>
    if isHighHalf high then
      if isLowHalf low then
        let c := Char.ofNat (0x10000 + (high - 0xD800) * 1024 + (low - 0xDC00))
        (joinPieces rest).map (String.utf8EncodeChar c ++ ·)
      else none
    else if isLowHalf high then none
    else (joinPieces (.unit low :: rest)).map (String.utf8EncodeChar (Char.ofNat high) ++ ·)
  | .unit n :: rest =>
    if isHighHalf n || isLowHalf n then none
    else (joinPieces rest).map (String.utf8EncodeChar (Char.ofNat n) ++ ·)

/-- The text of a literal, when it names one, after its opening quote. -/
def readString (bytes : Bytes) : Option (Option String × Bytes) :=
  (readPieces .plain bytes).map (fun r => ((joinPieces r.1).bind Utf8.toString?, r.2))

/-! ## Numbers -/

/-- A decimal digit. -/
def isDigit (b : UInt8) : Bool :=
  0x30 ≤ b && b ≤ 0x39

/-- Octets as the ASCII characters they are. -/
def asciiChars (bytes : Bytes) : List Char :=
  bytes.map (fun b => Char.ofNat b.toNat)

/-- One digit or more. -/
def readDigits (bytes : Bytes) : Option (Bytes × Bytes) :=
  match bytes.takeWhile isDigit with
  | [] => none
  | digits => some (digits, bytes.dropWhile isDigit)

/-- The digits before the point: a zero stands alone. -/
def readWhole (bytes : Bytes) : Option (Bytes × Bytes) :=
  match readDigits bytes with
  | some (digits, rest) => if digits.head? = some 0x30 ∧ 1 < digits.length then none else some (digits, rest)
  | none => none

/-- The fraction, or nothing of it. -/
def readFraction : Bytes → Option (Bytes × Bytes)
  | [] => some ([], [])
  | b :: rest =>
    if b = 0x2E then (readDigits rest).map (fun r => (b :: r.1, r.2)) else some ([], b :: rest)

/-- A sign of an exponent, or nothing of it. -/
def readSign : Bytes → Bytes × Bytes
  | [] => ([], [])
  | b :: rest => if b = 0x2B ∨ b = 0x2D then ([b], rest) else ([], b :: rest)

/-- The exponent, or nothing of it. -/
def readExponent : Bytes → Option (Bytes × Bytes)
  | [] => some ([], [])
  | b :: rest =>
    if b = 0x65 ∨ b = 0x45 then
      (readDigits (readSign rest).2).map (fun r => (b :: (readSign rest).1 ++ r.1, r.2))
    else some ([], b :: rest)

/-- A number after its sign. -/
def readUnsigned (negative : Bool) (bytes : Bytes) : Option (JsonNumber × Bytes) := do
  let (whole, rest) ← readWhole bytes
  let (fraction, rest) ← readFraction rest
  let (exponent, rest) ← readExponent rest
  let value := (Numeral.read? 10 (asciiChars whole)).getD 0
  return (⟨negative, value, asciiChars (fraction ++ exponent)⟩, rest)

/-- A number. -/
def readNumber : Bytes → Option (JsonNumber × Bytes)
  | [] => none
  | b :: rest => if b = 0x2D then readUnsigned true rest else readUnsigned false (b :: rest)

/-! ## Values -/

/-- The octets after a word, when they begin with it. -/
def after? : Bytes → Bytes → Option Bytes
  | [], bytes => some bytes
  | _ :: _, [] => none
  | w :: word, b :: bytes => if w = b then after? word bytes else none

/-- The octets of `null`, `true` and `false`. -/
def nullWord : Bytes := [0x6E, 0x75, 0x6C, 0x6C]

@[inherit_doc nullWord]
def trueWord : Bytes := [0x74, 0x72, 0x75, 0x65]

@[inherit_doc nullWord]
def falseWord : Bytes := [0x66, 0x61, 0x6C, 0x73, 0x65]

/-- A value that is no string, array or object. -/
def readAtom (bytes : Bytes) : Option (Json × Bytes) :=
  match after? nullWord bytes, after? trueWord bytes, after? falseWord bytes with
  | some rest, _, _ => some (.null, rest)
  | _, some rest, _ => some (.bool true, rest)
  | _, _, some rest => some (.bool false, rest)
  | _, _, _ => (readNumber bytes).map (fun r => (.number r.1, r.2))

mutual

/-- A value; `fuel` bounds the number of nested calls. -/
def readValue : Nat → Bytes → Option (Json × Bytes)
  | 0, _ => none
  | fuel + 1, bytes =>
    match skipGap bytes with
    | [] => none
    | b :: rest =>
      if b = 0x22 then (readString rest).map (fun r => (.string r.1, r.2))
      else if b = 0x5B then
        match skipGap rest with
        | 0x5D :: rest => some (.array [], rest)
        | rest => (readItems fuel rest).map (fun r => (.array r.1, r.2))
      else if b = 0x7B then
        match skipGap rest with
        | 0x7D :: rest => some (.object [], rest)
        | rest => (readMembers fuel rest).map (fun r => (.object r.1, r.2))
      else readAtom (b :: rest)

/-- The items of an array and its closing bracket. -/
def readItems : Nat → Bytes → Option (List Json × Bytes)
  | 0, _ => none
  | fuel + 1, bytes =>
    match readValue fuel bytes with
    | none => none
    | some (item, rest) =>
      match skipGap rest with
      | 0x2C :: rest => (readItems fuel rest).map (fun r => (item :: r.1, r.2))
      | 0x5D :: rest => some ([item], rest)
      | _ => none

/-- The members of an object and its closing brace. -/
def readMembers : Nat → Bytes → Option (List (Option String × Json) × Bytes)
  | 0, _ => none
  | fuel + 1, bytes =>
    match skipGap bytes with
    | 0x22 :: rest =>
      match readString rest with
      | none => none
      | some (name, rest) =>
        match skipGap rest with
        | 0x3A :: rest =>
          match readValue fuel rest with
          | none => none
          | some (value, rest) =>
            match skipGap rest with
            | 0x2C :: rest => (readMembers fuel rest).map (fun r => ((name, value) :: r.1, r.2))
            | 0x7D :: rest => some ([(name, value)], rest)
            | _ => none
        | _ => none
    | _ => none

end

/-- The value that octets hold.  Every two nested calls read an octet at least, so the fuel is
never what ends the reading. -/
def parse? (bytes : Bytes) : Option Json :=
  match readValue (2 * bytes.length + 2) bytes with
  | some (value, rest) => if (skipGap rest).isEmpty then some value else none
  | none => none

end Json

end Onboarding
