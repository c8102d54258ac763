import Onboarding.Http.Fault
import Onboarding.Text.Utf8

/-!
# Notices

What the clients of the two servers report while they work.  A notice holds what it is about; how
that is put into words is said by the log.
-/

namespace Onboarding

/-- A report of a client. -/
inductive Notice where
  /-- A request got no answer. -/
  | unanswered (method url : String) (fault : Http.Fault)
  /-- A token was granted in a body that cannot be read. -/
  | tokenUnreadable (body : Bytes)
  | searchRefused (username : String) (status : Nat)
  /-- Users were listed in a body that cannot be read. -/
  | searchUnreadable (username : String) (body : Bytes)
  | userExists (username : String)
  deriving DecidableEq

end Onboarding
