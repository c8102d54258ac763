import Onboarding.Act
import Onboarding.Environment
import Onboarding.ExitStatus
import Onboarding.Notice
import Onboarding.Secret
import Onboarding.SystemError

/-!
# Chat servers

What a run asks of the server that keeps chat accounts, directly or through a script.
-/

namespace Onboarding

/-- Why a chat account was not made. -/
inductive ChatError where
  | scriptMissing (path : String)
  | notStarted (cause : SystemError)
  | scriptFailed (status : ExitStatus) (complaint : String)
  | unreachable
  | rejected (status : Nat) (body : String)
  deriving DecidableEq

/-- What is said about the error. -/
def ChatError.message : ChatError → String
  | scriptMissing path => path ++ " not found"
  | notStarted cause => "failed to run matrix create script: " ++ cause.message
  | scriptFailed status complaint =>
    "matrix create script exited with " ++ status.text ++ ": " ++ complaint
  | unreachable => "synapse admin API unreachable"
  | rejected status body =>
    "synapse admin API returned status=" ++ toString status ++ ": " ++ body

/-- A chat server with states of type `σ`: makes the account of a user name with a password. -/
structure Chat (σ : Type) where
  provision : Environment → String → Secret → Act Notice σ (Except ChatError Unit)

/-- The same server within a larger state. -/
def Chat.within {σ τ : Type} (get : τ → σ) (set : σ → τ → τ) (c : Chat σ) : Chat τ where
  provision env username password := (c.provision env username password).within get set

end Onboarding
