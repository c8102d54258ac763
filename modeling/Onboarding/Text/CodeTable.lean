import Onboarding.Text.Numeral
import Onboarding.Text.Split

/-!
# Tables of code points

Character data of a standard, kept as text.  Entries stand between blanks or line ends and begin
with a code point in hexadecimal digits or with a range `first-last`.

* `ranges` reads a set.
* `rules` reads a mapping.  After a range, `/` and a stride narrow it, and after `>` follow the
  code points that the first one becomes, with dots between them.  The others of the range become
  code points as far from the first one's, or all the same one where the stride is zero.
* `values` reads a number for each range, after a colon.
-/

namespace Onboarding

namespace CodeTable

/-- A range of code points, both ends included. -/
structure Range where
  first : Nat
  last : Nat
  deriving DecidableEq

/-- Whether a range holds a code point. -/
def Range.has (r : Range) (n : Nat) : Bool :=
  r.first ≤ n && n ≤ r.last

/-- Text cut in two at the first `c`. -/
def cut (c : Char) (text : List Char) : List Char × List Char :=
  (text.takeWhile (· != c), (text.dropWhile (· != c)).drop 1)

/-- A number in hexadecimal digits. -/
def code (digits : List Char) : Nat :=
  (Numeral.read? 16 digits).getD 0

/-- A code point or a range of them. -/
def range (text : List Char) : Range :=
  match cut '-' text with
  | (first, []) => ⟨code first, code first⟩
  | (first, last) => ⟨code first, code last⟩

/-- The entries of a table. -/
def entries (text : String) : List (List Char) :=
  (Split.pieces (fun c => c == ' ' || c == '\n') text.toList).filter (!·.isEmpty)

/-! ## Sets -/

/-- The set that a table lists. -/
def ranges (text : String) : List Range :=
  (entries text).map range

/-- Whether a set holds a character. -/
def holds (set : List Range) (c : Char) : Bool :=
  set.any (·.has c.toNat)

/-! ## Mappings -/

/-- What the code points of a range become. -/
structure Rule where
  range : Range
  stride : Nat
  target : List Nat
  deriving DecidableEq

/-- The mapping that a table lists. -/
def rules (text : String) : List Rule :=
  (entries text).map fun entry =>
    let (source, target) := cut '>' entry
    let (source, stride) := cut '/' source
    let target := if target.isEmpty then [] else (Split.pieces (· == '.') target).map code
    ⟨range source, if stride.isEmpty then 1 else code stride, target⟩

/-- Whether a rule is about a character. -/
def Rule.applies (rule : Rule) (c : Char) : Bool :=
  rule.range.has c.toNat && (rule.stride ≤ 1 || (c.toNat - rule.range.first) % rule.stride == 0)

/-- What a rule makes of a character that it is about. -/
def Rule.apply (rule : Rule) (c : Char) : List Char :=
  let shift := if rule.stride = 0 then 0 else c.toNat - rule.range.first
  rule.target.map (fun n => Char.ofNat (n + shift))

/-- What a mapping makes of a character; nothing when no rule is about it. -/
def image? (mapping : List Rule) (c : Char) : Option (List Char) :=
  (mapping.find? (·.applies c)).map (·.apply c)

/-! ## Numbers -/

/-- The numbers that a table lists, each with its range. -/
def values (text : String) : List (Range × Nat) :=
  (entries text).map fun entry =>
    let (source, value) := cut ':' entry
    (range source, (Numeral.read? 10 value).getD 0)

/-- The number of a character, zero when the table lists none. -/
def valueOf (table : List (Range × Nat)) (c : Char) : Nat :=
  ((table.find? (·.1.has c.toNat)).map (·.2)).getD 0

end CodeTable

end Onboarding
