import Onboarding.Act
import Onboarding.Notice
import Onboarding.Secret

/-!
# Identity servers

What a run asks of the server that knows users and their passwords.
-/

namespace Onboarding

/-- A user of an identity server. -/
structure User where
  id : String
  username : String
  deriving DecidableEq

/-- Why a user was not made or has no new password. -/
inductive IdentityError where
  | createRejected (status : Nat)
  /-- The user exists, but under which id the server does not say. -/
  | unresolved (username : String)
  | passwordRejected (status : Nat)
  deriving DecidableEq

/-- What is said about the error. -/
def IdentityError.message : IdentityError → String
  | createRejected status => "create user returned status=" ++ toString status
  | unresolved username => "user " ++ username ++ " exists but its id could not be resolved"
  | passwordRejected status => "reset password returned status=" ++ toString status

/-- An identity server with states of type `σ`. -/
structure Identity (σ : Type) where
  /-- The user of a name, when the server knows one. -/
  find : String → Act Notice σ (Option User)
  /-- Makes a user and gives the id. -/
  create : String → Act Notice σ (Except IdentityError String)
  /-- Gives the user of an id a password. -/
  setPassword : String → Secret → Act Notice σ (Except IdentityError Unit)

/-- The same server within a larger state. -/
def Identity.within {σ τ : Type} (get : τ → σ) (set : σ → τ → τ) (i : Identity σ) :
    Identity τ where
  find username := (i.find username).within get set
  create username := (i.create username).within get set
  setPassword id password := (i.setPassword id password).within get set

end Onboarding
