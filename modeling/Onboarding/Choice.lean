import Onboarding.Environment
import Onboarding.Json.Reader

/-!
# Choices

Types with a fixed list of values, each with a name of its own, and how a value is chosen by its
name on a command line or in a document.
-/

namespace Onboarding

/-- A type with a fixed list of values, each with a name. -/
class Choice (α : Type) where
  all : List α
  name : α → String

namespace Choice

/-- An ASCII letter in lower case. -/
def lower (c : Char) : Char :=
  if 'A' ≤ c ∧ c ≤ 'Z' then Char.ofNat (c.toNat + 32) else c

/-- Whether two names are the same, or differ only in the case of ASCII letters. -/
def sameName (ignoreCase : Bool) (a b : String) : Bool :=
  if ignoreCase then a.toList.map lower == b.toList.map lower else a == b

/-- The value of a name. -/
def ofName? {α : Type} [Choice α] (ignoreCase : Bool) (text : String) : Option α :=
  (all : List α).find? fun a => sameName ignoreCase (name a) text

/-- What is said about a text that names no value. -/
def unknown (text : String) : String :=
  "invalid variant: " ++ text

/-- The value that a JSON value names: a string, or an object whose only member has that name and
the value null. -/
def ofJson? {α : Type} [Choice α] : Json → Option α
  | .string text => text.bind (ofName? false)
  | .object [(some text, .null)] => ofName? false text
  | _ => none

instance : Choice Environment where
  all := [.dev, .prod]
  name := Environment.name

end Choice

end Onboarding
