import Onboarding.SystemError
import Onboarding.Text.Utf8

/-!
# Hosts

What a process sees of the system that it runs on.
-/

namespace Onboarding

/-- The surroundings of a process. -/
structure Host where
  /-- The variables of the process. -/
  bindings : List (String × String)
  /-- The working directory. -/
  directory : Except SystemError String
  /-- The path of the running program. -/
  executable : Except SystemError String
  /-- The home directory of the account, which a variable can override; not every account has
  one. -/
  accountHome : Option String
  /-- Whether a path is seen to name anything, readable or not. -/
  has : String → Bool
  /-- What reading a file comes to. -/
  read : String → Except SystemError Bytes

namespace Host

/-- The value of a variable. -/
def get? (h : Host) (name : String) : Option String :=
  h.bindings.lookup name

/-- The home directory. -/
def home? (h : Host) : Option String :=
  (h.get? "HOME").filter (!·.isEmpty) <|> h.accountHome

end Host

end Onboarding
