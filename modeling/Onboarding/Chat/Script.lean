import Onboarding.Chat.Basic
import Onboarding.Repository
import Onboarding.Text.Blank

/-!
# Chat accounts by script

A chat server that is reached through the script of a repository.  The script gets the
environment, the password and the user name as arguments, and the cluster configuration in a
variable.
-/

namespace Onboarding

/-- A program to start, its arguments, and the variables that are set for it. -/
structure Invocation where
  program : String
  arguments : List String
  bindings : List (String × String)
  deriving DecidableEq

/-- The end of a program and what it wrote as complaints. -/
structure Finished where
  status : ExitStatus
  complaints : Bytes
  deriving DecidableEq

/-- A place where programs can be started. -/
structure Launcher (σ : Type) where
  /-- Whether a path names a file that is no directory. -/
  isFile : String → σ → Bool
  start : Invocation → Act Notice σ (Except SystemError Finished)

namespace Chat

namespace Script

/-- The variable that names the cluster configuration. -/
def kubeconfigVariable : String :=
  "KUBECONFIG"

/-- The arguments of the script. -/
def arguments (env : Environment) (username : String) (password : Secret) : List String :=
  ["--env", env.name, "-p", password.reveal, username]

/-- The way the script is started. -/
def invocation (root : String) (env : Environment) (username : String) (password : Secret) :
    Invocation :=
  ⟨Repository.script root, arguments env username password,
    [(kubeconfigVariable, Repository.kubeconfig root env)]⟩

/-- What the end of the script means. -/
def result : Except SystemError Finished → Except ChatError Unit
  | .error cause => .error (.notStarted cause)
  | .ok finished =>
    if finished.status.isSuccess then .ok ()
    else
      .error (.scriptFailed finished.status
        (Text.trim (Utf8.toStringLossy finished.complaints)))

/-- The chat server of a repository. -/
def server {σ : Type} (root : String) (launcher : Launcher σ) : Chat σ where
  provision env username password := do
    if launcher.isFile (Repository.script root) (← Act.get) then
      return result (← launcher.start (invocation root env username password))
    else return .error (.scriptMissing (Repository.script root))

end Script

end Chat

end Onboarding
