import Onboarding.Choice

/-!
# Chat backends

The ways to make chat accounts.
-/

namespace Onboarding

namespace Chat

/-- How chat accounts are made. -/
inductive Backend where
  | script
  | synapse
  deriving DecidableEq

namespace Backend

/-- The name on the command line and in the settings. -/
def name : Backend → String
  | script => "script"
  | synapse => "synapse"

instance : Choice Backend where
  all := [.script, .synapse]
  name := name

end Backend

end Chat

end Onboarding
