/-!
# Punycode

Text outside ASCII in letters, digits and hyphens, as in labels of domain names (RFC 3492).
-/

namespace Onboarding

namespace Url

namespace Punycode

/-- The threshold of a digit at place `k` under a bias. -/
def threshold (k bias : Nat) : Nat :=
  if k ≤ bias then 1 else min 26 (k - bias)

/-- Halves a difference by steps of 35 until it is small; `fuel` bounds the steps. -/
def shrink : Nat → Nat → Nat → Nat × Nat
  | 0, delta, k => (delta, k)
  | fuel + 1, delta, k => if 455 < delta then shrink fuel (delta / 35) (k + 36) else (delta, k)

/-- The bias after a difference. -/
def adapt (delta count : Nat) (first : Bool) : Nat :=
  let delta := if first then delta / 700 else delta / 2
  let (delta, k) := shrink 64 (delta + delta / count) 0
  k + 36 * delta / (delta + 38)

/-! ## Writing -/

/-- A digit below 36. -/
def digit (d : Nat) : Char :=
  if d < 26 then Char.ofNat (97 + d) else Char.ofNat (22 + d)

/-- A difference in digits from place `k` on; `fuel` bounds their number. -/
def writeDelta : Nat → Nat → Nat → Nat → List Char
  | 0, _, _, _ => []
  | fuel + 1, q, k, bias =>
    let t := threshold k bias
    if q < t then [digit q]
    else digit (t + (q - t) % (36 - t)) :: writeDelta fuel ((q - t) / (36 - t)) (k + 36) bias

/-- The state of a writer: the difference so far, the characters that are written, the bias, and
the digits. -/
structure Writer where
  delta : Nat
  handled : Nat
  bias : Nat
  output : List Char

/-- One character of the text while those equal to `n` are written. -/
def writeChar (basic n : Nat) (w : Writer) (c : Char) : Writer :=
  if c.toNat < n then { w with delta := w.delta + 1 }
  else if c.toNat = n then
    ⟨0, w.handled + 1, adapt w.delta (w.handled + 1) (w.handled == basic),
      w.output ++ writeDelta 64 w.delta 36 w.bias⟩
  else w

/-- The characters from `n` on, in ascending order; `fuel` bounds how many differ. -/
def writeFrom (text : List Char) (basic : Nat) : Nat → Nat → Writer → List Char
  | 0, _, w => w.output
  | fuel + 1, n, w =>
    match ((text.map Char.toNat).filter (n ≤ ·)).min? with
    | none => w.output
    | some m =>
      let w := { w with delta := w.delta + (m - n) * (w.handled + 1) }
      let w := text.foldl (writeChar basic m) w
      writeFrom text basic fuel (m + 1) { w with delta := w.delta + 1 }

/-- Text as letters, digits and hyphens. -/
def encode (text : List Char) : List Char :=
  let ascii := text.filter (·.toNat < 128)
  let start := if ascii.isEmpty then [] else ascii ++ ['-']
  writeFrom text ascii.length (text.length + 1) 128 ⟨0, ascii.length, 72, start⟩

/-! ## Reading -/

/-- The value of a digit. -/
def digitValue? (c : Char) : Option Nat :=
  let n := c.toNat
  if 97 ≤ n ∧ n ≤ 122 then some (n - 97)
  else if 65 ≤ n ∧ n ≤ 90 then some (n - 65)
  else if 48 ≤ n ∧ n ≤ 57 then some (n - 22)
  else none

/-- A difference from place `k` on, with the text after it. -/
def readDelta (bias : Nat) : Nat → Nat → Nat → List Char → Option (Nat × List Char)
  | _, _, _, [] => none
  | i, weight, k, c :: rest =>
    match digitValue? c with
    | none => none
    | some d =>
      let t := threshold k bias
      let i := i + d * weight
      if 0xFFFFFFFF < i then none
      else if d < t then some (i, rest)
      else readDelta bias i (weight * (36 - t)) (k + 36) rest

/-- The code point of a character that may stand in text outside ASCII. -/
def isScalar (n : Nat) : Bool :=
  n < 0xD800 || (0xE000 ≤ n && n < 0x110000)

/-- Text with the characters that digits add; `fuel` bounds their number. -/
def readFrom : Nat → Nat → Nat → Nat → List Char → List Char → Option (List Char)
  | 0, _, _, _, _, _ => none
  | fuel + 1, n, i, bias, text, digits =>
    if digits.isEmpty then some text
    else
      match readDelta bias i 1 36 digits with
      | none => none
      | some (j, rest) =>
        let length := text.length + 1
        let n := n + j / length
        let place := j % length
        if isScalar n then
          readFrom fuel n (place + 1) (adapt (j - i) length (i == 0))
            (text.take place ++ Char.ofNat n :: text.drop place) rest
        else none

/-- The text that letters, digits and hyphens stand for. -/
def decode? (encoded : List Char) : Option (List Char) :=
  let back := encoded.reverse
  let digits := (back.takeWhile (· != '-')).reverse
  let ascii := ((back.dropWhile (· != '-')).drop 1).reverse
  readFrom (encoded.length + 1) 128 0 72 ascii digits

end Punycode

end Url

end Onboarding
