import Onboarding.Act
import Onboarding.Notice
import Onboarding.Text.Utf8

/-!
# Requests and responses

Status 0 stands for a server that could not be reached; every other status is one that a server
gave.  A `Transport` is a way to have a request answered.
-/

namespace Onboarding

namespace Http

/-- A request as a client makes it. -/
structure Request where
  method : String
  url : String
  headers : List (String × String)
  body : Option Bytes
  deriving DecidableEq

/-- An answer.  Header names are in ascending order, each at most once. -/
structure Response where
  status : Nat
  headers : List (String × String)
  body : Bytes
  deriving DecidableEq

/-- A way to have requests answered. -/
abbrev Transport (σ : Type) : Type :=
  Request → Act Notice σ Response

/-- Headers with one more; the last of a name counts. -/
def insertHeader (header : String × String) : List (String × String) → List (String × String)
  | [] => [header]
  | h :: rest =>
    if header.1 < h.1 then header :: h :: rest
    else if header.1 = h.1 then header :: rest
    else h :: insertHeader header rest

/-- Headers in ascending order of their names. -/
def sortHeaders (headers : List (String × String)) : List (String × String) :=
  headers.foldl (fun sorted header => insertHeader header sorted) []

namespace Response

/-- No answer. -/
def unreachable : Response :=
  ⟨0, [], []⟩

/-- Whether there was no answer. -/
def isUnreachable (r : Response) : Bool :=
  r.status == 0

/-- An ASCII letter in lower case. -/
def lower (c : Char) : Char :=
  if 'A' ≤ c ∧ c ≤ 'Z' then Char.ofNat (c.toNat + 32) else c

/-- Whether two header names are the same but for the case of ASCII letters. -/
def sameName (a b : String) : Bool :=
  a.toList.map lower == b.toList.map lower

/-- The value of the first header of a name. -/
def header? (r : Response) (name : String) : Option String :=
  (r.headers.find? (fun h => sameName h.1 name)).map (·.2)

/-- The text of at most `limit` octets of the body. -/
def preview (r : Response) (limit : Nat) : String :=
  Utf8.toStringLossy (r.body.take limit)

end Response

end Http

end Onboarding
