import Onboarding.Chat.Basic
import Onboarding.Identity.Basic
import Onboarding.Roster

/-!
# Batches

Records one after the other: look the user up, make the user when there is none, set the
password, make the chat account.  A step that fails ends its record; nothing that was done before
is taken back, and the next record follows.
-/

namespace Onboarding

/-! ## Results -/

/-- Why a record failed, by the step that did. -/
inductive Failure where
  | createUser (cause : IdentityError)
  | setPassword (cause : IdentityError)
  | provisionChat (cause : ChatError)
  deriving DecidableEq

/-- The reason of a failure. -/
def Failure.reason : Failure → String
  | createUser cause => cause.message
  | setPassword cause => cause.message
  | provisionChat cause => cause.message

/-- How a record ended: with both accounts, and whether a user was made for it, or by a failure. -/
inductive Outcome where
  | success (created : Bool)
  | failed (failure : Failure)
  deriving DecidableEq

/-- Whether a record ended with both accounts. -/
def Outcome.isSuccess : Outcome → Bool
  | success _ => true
  | failed _ => false

/-- The counts of a batch. -/
structure Summary where
  usersCreated : Nat
  passwordsSet : Nat
  accountsCreated : Nat
  failures : Nat
  deriving DecidableEq

namespace Summary

/-- Nothing was done. -/
def zero : Summary :=
  ⟨0, 0, 0, 0⟩

/-- One more user was made. -/
def countUser (s : Summary) : Summary :=
  { s with usersCreated := s.usersCreated + 1 }

/-- One more password was set. -/
def countPassword (s : Summary) : Summary :=
  { s with passwordsSet := s.passwordsSet + 1 }

/-- One more chat account was made. -/
def countAccount (s : Summary) : Summary :=
  { s with accountsCreated := s.accountsCreated + 1 }

/-- One more record failed. -/
def countFailure (s : Summary) : Summary :=
  { s with failures := s.failures + 1 }

/-- The exit code of a process that did a batch. -/
def exitCode (s : Summary) : Nat :=
  if s.failures = 0 then 0 else 5

/-- The counts in lines of text. -/
def text (s : Summary) : String :=
  "Provisioning summary:\n"
    ++ "- Keycloak users created: " ++ toString s.usersCreated ++ "\n"
    ++ "- Keycloak passwords set: " ++ toString s.passwordsSet ++ "\n"
    ++ "- Matrix users created:   " ++ toString s.accountsCreated ++ "\n"
    ++ "- Failures:               " ++ toString s.failures ++ "\n"

/-- The counts as a JSON object. -/
def json (s : Summary) : String :=
  "\x7b\"created_idp\":" ++ toString s.usersCreated
    ++ ",\"passwords_set\":" ++ toString s.passwordsSet
    ++ ",\"created_chat\":" ++ toString s.accountsCreated
    ++ ",\"failures\":" ++ toString s.failures ++ "\x7d"

end Summary

/-- What a batch came to: its counts, how many records were processed, and how each of them ended,
in order. -/
structure Tally where
  summary : Summary
  processed : Nat
  outcomes : List Outcome
  deriving DecidableEq

/-- A batch that has not begun. -/
def Tally.zero : Tally :=
  ⟨.zero, 0, []⟩

/-- A batch with one record more, and the counts after it. -/
def Tally.add (t : Tally) (outcome : Outcome) (summary : Summary) : Tally :=
  ⟨summary, t.processed + 1, t.outcomes ++ [outcome]⟩

/-! ## Events -/

/-- What a batch reports while it works. -/
inductive Event where
  /-- A report of a client, passed on. -/
  | notice (notice : Notice)
  | userCreated (username : String)
  | accountCreated (username : String)
  | recordFailed (username : String) (failure : Failure)
  | finished (summary : Summary) (processed : Nat)
  deriving DecidableEq

/-! ## Work -/

/-- The two servers of a batch, over one state. -/
structure Servers (σ : Type) where
  identity : Identity σ
  chat : Chat σ

namespace Servers

variable {σ : Type}

/-- The chat account of a record, after its password. -/
def openChat (servers : Servers σ) (env : Environment) (record : Record) (created : Bool)
    (counts : Summary) : Act Event σ (Outcome × Summary) := do
  match ← (servers.chat.provision env record.username record.password).reportAs .notice with
  | .ok () =>
    Act.report (.accountCreated record.username)
    return (.success created, counts.countAccount)
  | .error cause => return (.failed (.provisionChat cause), counts)

/-- The password of a record, once its user has an id, and what follows. -/
def setPassword (servers : Servers σ) (env : Environment) (record : Record) (created : Bool)
    (id : String) (counts : Summary) : Act Event σ (Outcome × Summary) := do
  match ← (servers.identity.setPassword id record.password).reportAs .notice with
  | .ok () => servers.openChat env record created counts.countPassword
  | .error cause => return (.failed (.setPassword cause), counts)

/-- The steps of a record up to its end, and the counts after them. -/
def drive (servers : Servers σ) (env : Environment) (record : Record) (counts : Summary) :
    Act Event σ (Outcome × Summary) := do
  match ← (servers.identity.find record.username).reportAs .notice with
  | some user => servers.setPassword env record false user.id counts
  | none =>
    match ← (servers.identity.create record.username).reportAs .notice with
    | .ok id =>
      Act.report (.userCreated record.username)
      servers.setPassword env record true id counts.countUser
    | .error cause => return (.failed (.createUser cause), counts)

/-- A record: its steps, and a report when one of them failed. -/
def process (servers : Servers σ) (env : Environment) (record : Record) (counts : Summary) :
    Act Event σ (Outcome × Summary) := do
  let (outcome, counts) ← servers.drive env record counts
  match outcome with
  | .success _ => return (outcome, counts)
  | .failed failure =>
    Act.report (.recordFailed record.username failure)
    return (outcome, counts.countFailure)

/-- Records in order, after those of a tally. -/
def processAll (servers : Servers σ) (env : Environment) :
    List Record → Tally → Act Event σ Tally
  | [], tally => return tally
  | record :: rest, tally => do
    let (outcome, counts) ← servers.process env record tally.summary
    servers.processAll env rest (tally.add outcome counts)

/-- A batch: its records in order, and the counts reported at the end. -/
def run (servers : Servers σ) (env : Environment) (records : List Record) :
    Act Event σ Tally := do
  let tally ← servers.processAll env records .zero
  Act.report (.finished tally.summary tally.processed)
  return tally

end Servers

end Onboarding
