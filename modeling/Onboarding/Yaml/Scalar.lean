import Onboarding.Yaml.Node

/-!
# What YAML scalars mean

A scalar without quotes and without a tag may stand for nothing, a truth value or a number; every
other one is text.  `Node.text?`, `Node.natural?` and the others read a node as a value of one
kind, and refuse it when it is of another.
-/

namespace Onboarding

namespace Yaml

namespace Scalar

/-! ## Nothing and truth values -/

/-- Whether text stands for nothing. -/
def isNull (text : List Char) : Bool :=
  ["", "~", "null", "Null", "NULL"].contains (String.ofList text)

/-- Whether text stands for a truth value. -/
def isTruth (text : List Char) : Bool :=
  ["true", "True", "TRUE", "false", "False", "FALSE"].contains (String.ofList text)

/-! ## Integers -/

/-- Text without a sign in front. -/
def dropSign (sign : Char) : List Char → List Char
  | c :: rest => if c = sign then rest else c :: rest
  | [] => []

/-- Whether digits begin with a zero that is not all of them. -/
def isPadded (digits : List Char) : Bool :=
  1 < digits.length && digits.head? == some '0' && digits.all Char.isDigit

/-- An integer without its sign: hexadecimal, octal, binary or decimal. -/
def magnitude? : List Char → Option Nat
  | '0' :: 'x' :: digits => Numeral.read? 16 digits
  | '0' :: 'o' :: digits => Numeral.read? 8 digits
  | '0' :: 'b' :: digits => Numeral.read? 2 digits
  | digits => if isPadded digits then none else Numeral.read? 10 digits

/-- An integer that is not negative. -/
def natural? (text : List Char) : Option Nat :=
  magnitude? (dropSign '+' text)

/-- Whether text is an integer of a size that integers may have. -/
def isInteger (text : List Char) : Bool :=
  match text with
  | '-' :: digits => (magnitude? digits).any (2 * · ≤ UInt64.size * UInt64.size)
  | digits => (natural? digits).any (· < UInt64.size * UInt64.size)

/-! ## Numbers with a fraction -/

/-- The digits, the fraction and the exponent of a decimal number without sign. -/
structure Decimal where
  whole : List Char
  fraction : List Char
  exponent : Int

/-- An exponent behind its letter. -/
def exponent? : List Char → Option Int
  | '-' :: digits => (Numeral.read? 10 digits).map fun n => -(n : Int)
  | '+' :: digits => (Numeral.read? 10 digits).map Int.ofNat
  | digits => (Numeral.read? 10 digits).map Int.ofNat

/-- A decimal number without sign: digits on at least one side of the point, which may be
missing, and perhaps an exponent. -/
def decimal? (text : List Char) : Option Decimal :=
  let whole := text.takeWhile Char.isDigit
  let rest := text.drop whole.length
  let (fraction, rest) : List Char × List Char :=
    match rest with
    | '.' :: more => (more.takeWhile Char.isDigit, more.dropWhile Char.isDigit)
    | rest => ([], rest)
  if whole.isEmpty && fraction.isEmpty then none
  else
    match rest with
    | [] => some ⟨whole, fraction, 0⟩
    | 'e' :: digits | 'E' :: digits => (exponent? digits).map (⟨whole, fraction, ·⟩)
    | _ => none

/-- Whether a decimal number is within the range of double precision: it rounds to a number below
two to the power of 1024. -/
def Decimal.isFinite (d : Decimal) : Bool :=
  let digits := (d.whole ++ d.fraction).dropWhile (· == '0')
  let power := d.exponent - d.fraction.length
  let size := (digits.length : Int) + power
  if digits.isEmpty || size ≤ 308 then true
  else if 309 < size then false
  else
    let value := (Numeral.read? 10 digits).getD 0
    let limit := Nat.pow 2 1024 - Nat.pow 2 970
    if 0 ≤ power then value * Nat.pow 10 power.toNat < limit
    else value < limit * Nat.pow 10 (-power).toNat

/-- The words for what is no finite number. -/
def isUnbounded (text : List Char) : Bool :=
  [".inf", ".Inf", ".INF", "-.inf", "-.Inf", "-.INF", ".nan", ".NaN", ".NAN"].contains
    (String.ofList text)

/-- Whether text is a number that need not be an integer. -/
def isFraction (text : List Char) : Bool :=
  let body := dropSign '+' text
  let signed := body.length < text.length
  if isPadded (dropSign '-' (dropSign '+' text)) then false
  else
    isUnbounded body ||
      match body with
      | '-' :: digits => !signed && (decimal? digits).any Decimal.isFinite
      | '+' :: _ => false
      | digits => (decimal? digits).any Decimal.isFinite

/-- Whether text without quotes stands for text. -/
def isText (text : List Char) : Bool :=
  !(isNull text || isTruth text || isInteger text || isFraction text)

/-! ## Tags -/

/-- The tag of text. -/
def textTag : String :=
  "tag:yaml.org,2002:str"

/-- The tag of integers. -/
def integerTag : String :=
  "tag:yaml.org,2002:int"

/-- The tag of nothing. -/
def nullTag : String :=
  "tag:yaml.org,2002:null"

end Scalar

namespace Node

/-- Whether a node stands for nothing. -/
def isNull : Node → Bool
  | .scalar none true text => Scalar.isNull text.toList
  | .scalar (some tag) true text => tag == Scalar.nullTag && Scalar.isNull text.toList
  | _ => false

/-- A node as text. -/
def text? : Node → Option String
  | .scalar none true text => if Scalar.isText text.toList then some text else none
  | .scalar _ _ text => some text
  | _ => none

/-- A node as a natural number. -/
def natural? : Node → Option Nat
  | .scalar none true text => Scalar.natural? text.toList
  | .scalar (some tag) true text =>
    if tag = Scalar.integerTag then Scalar.natural? text.toList else none
  | _ => none

/-- A node that may stand for nothing. -/
def optional? {α : Type} (read : Node → Option α) (node : Node) : Option (Option α) :=
  if node.isNull then some none else (read node).map some

end Node

end Yaml

end Onboarding
