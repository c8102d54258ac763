import Onboarding.Http.Fault
import Onboarding.Text.Utf8

/-!
# Wordings

What libraries say about an input that they cannot read and about a request that fails.  These texts
go into messages and into the `error` fields of the log.  They depend on what is given here and on
nothing else; what they are is left to the libraries, so that whatever is shown of a message or of a
log holds of every wording.
-/

namespace Onboarding

/-- The texts of libraries. -/
structure Wording where
  /-- What is said about a text that is no document, or not one of settings. -/
  settings : String → String
  /-- What is said about a body that grants no token. -/
  grant : Bytes → String
  /-- What is said about a body that lists no users. -/
  users : Bytes → String
  /-- What is said about a request without an answer. -/
  transport : Http.Fault → String

end Onboarding
