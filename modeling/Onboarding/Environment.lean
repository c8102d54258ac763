/-!
# Environments

The environment that accounts are made for.  A run refuses production.
-/

namespace Onboarding

/-- Where accounts are made. -/
inductive Environment where
  | dev
  | prod
  deriving DecidableEq

namespace Environment

/-- The name on the command line, in file names and in log lines. -/
def name : Environment → String
  | dev => "dev"
  | prod => "prod"

/-- The environment that no run may touch. -/
def isProduction : Environment → Bool
  | dev => false
  | prod => true

end Environment

end Onboarding
