/-!
# Faults

Why a request gets no answer.
-/

namespace Onboarding

namespace Http

/-- Why a request got no answer. -/
inductive Fault where
  /-- The URL is not one of the web. -/
  | url (url : String)
  /-- A header of this name cannot be sent; the URL has not been looked at. -/
  | header (url name : String)
  /-- The network failed, in its own words. -/
  | network (text : String)
  | tooManyRedirections
  /-- A redirection leads nowhere, or needs the body again. -/
  | misdirected (status : Nat) (location : Option String)
  /-- The body of the answer is longer than a body may be. -/
  | oversized
  deriving DecidableEq

end Http

end Onboarding
