import Onboarding.Environment
import Onboarding.Settings.File

/-!
# Errors that end a run

Why a run stops before its first record, what is said about it, and the exit code of the process.
-/

namespace Onboarding

/-- Why a run stopped. -/
inductive RunError where
  | productionRefused
  | missingCredentials
  /-- A setting, flag or file that a run cannot start with. -/
  | config (message : String)
  /-- There are no settings to start with. -/
  | settings (cause : Settings.Error)
  | authenticationFailed (status : Nat) (body : String)
  | emptyToken
  deriving DecidableEq

namespace RunError

/-- What is said about the error. -/
def message (w : Wording) : RunError → String
  | productionRefused => "refusing to run provisioning on prod environment"
  | missingCredentials =>
    "must provide either admin username/password or client credentials for Keycloak"
  | config message => "configuration error: " ++ message
  | settings cause => "configuration error: " ++ cause.message w
  | authenticationFailed status body =>
    "failed to get admin token (status=" ++ toString status ++ "): " ++ body
  | emptyToken => "could not obtain Keycloak admin token"

/-- The exit code of the process. -/
def exitCode : RunError → Nat
  | productionRefused => 1
  | missingCredentials => 2
  | config _ => 2
  | settings _ => 2
  | authenticationFailed .. => 3
  | emptyToken => 4

/-- Every environment but production is accepted. -/
def guardProduction (env : Environment) : Except RunError Unit :=
  if env.isProduction then .error .productionRefused else .ok ()

end RunError

end Onboarding
