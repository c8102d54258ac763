import Onboarding.Batch
import Onboarding.RunError
import Onboarding.Wording

/-!
# Log lines

How reports are written to the log: a level, a message, and named fields.  Secrets have no field.
-/

namespace Onboarding

namespace Log

/-- How much a line matters. -/
inductive Level where
  | error
  | warn
  | info
  deriving DecidableEq

/-- The name of a level. -/
def Level.name : Level → String
  | error => "ERROR"
  | warn => "WARN"
  | info => "INFO"

/-- The least level that is shown. -/
inductive Threshold where
  | warn
  | info
  | debug
  deriving DecidableEq

/-- The threshold that two flags choose; quiet wins. -/
def Threshold.ofFlags (verbose quiet : Bool) : Threshold :=
  if quiet then .warn else if verbose then .debug else .info

/-- Whether lines of a level are shown. -/
def Threshold.shows : Threshold → Level → Bool
  | warn, .info => false
  | _, _ => true

/-- A line of the log. -/
structure Line where
  level : Level
  message : String
  fields : List (String × String)
  deriving DecidableEq

/-- A line as it is shown. -/
def Line.text (l : Line) : String :=
  l.level.name ++ " " ++ l.message
    ++ String.join (l.fields.map fun f => " " ++ f.1 ++ "=" ++ f.2) ++ "\n"

/-- The line of a client's report. -/
def ofNotice (w : Wording) : Notice → Line
  | .unanswered method url fault =>
    ⟨.warn, "transport error",
      [("method", method), ("url", url), ("error", w.transport fault)]⟩
  | .tokenUnreadable body =>
    ⟨.warn, "token response was not valid JSON", [("error", w.grant body)]⟩
  | .searchRefused username status =>
    ⟨.warn, "Keycloak search failed", [("username", username), ("status", toString status)]⟩
  | .searchUnreadable username body =>
    ⟨.warn, "Keycloak search returned unexpected body",
      [("username", username), ("error", w.users body)]⟩
  | .userExists username =>
    ⟨.info, "Keycloak user already exists, resolving id", [("username", username)]⟩

/-- The name of the step that failed. -/
def stepName : Failure → String
  | .createUser _ => "CreateUser"
  | .setPassword _ => "SetPassword"
  | .provisionChat _ => "ProvisionChat"

/-- The line of a batch's report. -/
def ofEvent (w : Wording) : Event → Line
  | .notice notice => ofNotice w notice
  | .userCreated username => ⟨.info, "created Keycloak user", [("username", username)]⟩
  | .accountCreated username => ⟨.info, "created Matrix user", [("username", username)]⟩
  | .recordFailed username failure =>
    ⟨.error, "record failed",
      [("username", username), ("step", stepName failure), ("reason", failure.reason)]⟩
  | .finished summary processed =>
    ⟨.info, "provisioning finished",
      [("processed", toString processed), ("created_idp", toString summary.usersCreated),
        ("passwords_set", toString summary.passwordsSet),
        ("created_chat", toString summary.accountsCreated),
        ("failures", toString summary.failures)]⟩

end Log

end Onboarding
