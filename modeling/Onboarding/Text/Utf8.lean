/-!
# UTF-8

Octets and text.

* `encode` writes text as octets.
* `scan` reads octets one by one.  Its answer lists the characters in order, with `none` in
  the place of every run of octets that starts no character.  A run is as long as it can be
  while some character still starts with it, and at least one octet.
* `decode?` accepts exactly the octets without such a run, `decodeLossy` puts U+FFFD in its
  place, and `validLength` counts the octets before the first one.
-/

namespace Onboarding

/-- Raw octets. -/
abbrev Bytes := List UInt8

namespace Utf8

/-! ## Writing -/

/-- The octets of text. -/
def encode (text : List Char) : Bytes :=
  text.flatMap String.utf8EncodeChar

/-- The octets of a string. -/
def ofString (s : String) : Bytes :=
  encode s.toList

/-! ## Reading -/

/-- Where a reader stands: between characters, or inside one that is owed `owed` more octets,
the next of which lies from `low` to `high`; `value` holds the bits read so far. -/
inductive State where
  | between
  | inside (owed : Nat) (low high : UInt8) (value : Nat)

/-- The answer to the first octet of a character: what is complete, and what is awaited. -/
def State.start (b : UInt8) : List (Option Char) × State :=
  if b < 0x80 then ([some (Char.ofNat b.toNat)], .between)
  else if b < 0xC2 then ([none], .between)
  else if b < 0xE0 then ([], .inside 1 0x80 0xBF (b.toNat - 0xC0))
  else if b = 0xE0 then ([], .inside 2 0xA0 0xBF 0)
  else if b = 0xED then ([], .inside 2 0x80 0x9F 0xD)
  else if b < 0xF0 then ([], .inside 2 0x80 0xBF (b.toNat - 0xE0))
  else if b = 0xF0 then ([], .inside 3 0x90 0xBF 0)
  else if b < 0xF4 then ([], .inside 3 0x80 0xBF (b.toNat - 0xF0))
  else if b = 0xF4 then ([], .inside 3 0x80 0x8F 4)
  else ([none], .between)

/-- The answer to one octet.  An octet that cannot continue the character begun ends that run
and is read again as a first octet. -/
def State.feed (b : UInt8) : State → List (Option Char) × State
  | .between => State.start b
  | .inside owed low high value =>
    if low ≤ b ∧ b ≤ high then
      let value := value * 64 + (b.toNat - 0x80)
      if owed ≤ 1 then ([some (Char.ofNat value)], .between)
      else ([], .inside (owed - 1) 0x80 0xBF value)
    else
      let (pieces, state) := State.start b
      (none :: pieces, state)

/-- The answer to the end of the octets. -/
def State.finish : State → List (Option Char)
  | .between => []
  | .inside .. => [none]

/-- The pieces that octets hold, read from a state. -/
def scanFrom : State → Bytes → List (Option Char)
  | state, [] => state.finish
  | state, b :: rest => (state.feed b).1 ++ scanFrom (state.feed b).2 rest

/-- The characters that octets hold, with `none` for each run that is part of no character. -/
def scan (bytes : Bytes) : List (Option Char) :=
  scanFrom .between bytes

/-- All of the values, when none is missing. -/
def complete {α : Type} : List (Option α) → Option (List α)
  | [] => some []
  | none :: _ => none
  | some a :: rest => (complete rest).map (a :: ·)

/-- The text that octets are the writing of. -/
def decode? (bytes : Bytes) : Option (List Char) :=
  complete (scan bytes)

/-- The text that octets hold, with U+FFFD for each run that is part of no character. -/
def decodeLossy (bytes : Bytes) : List Char :=
  (scan bytes).map (·.getD '\uFFFD')

/-- How many octets stand before the first run that is part of no character. -/
def validLength (bytes : Bytes) : Nat :=
  (((scan bytes).takeWhile (·.isSome)).filterMap id).foldl (fun n c => n + c.utf8Size) 0

/-- `decode?` as a string. -/
def toString? (bytes : Bytes) : Option String :=
  (decode? bytes).map String.ofList

/-- `decodeLossy` as a string. -/
def toStringLossy (bytes : Bytes) : String :=
  String.ofList (decodeLossy bytes)

end Utf8

end Onboarding
