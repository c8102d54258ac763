import Onboarding.Environment
import Onboarding.Host
import Onboarding.Path

/-!
# The repository

The directory that holds the script which makes chat accounts and one cluster configuration for
each environment.  It is named on the command line or in the settings; otherwise it is taken from
the place of the running program, which a build puts two directories below it.
-/

namespace Onboarding

namespace Repository

/-- The file name of the script. -/
def scriptName : String :=
  "create-matrix-user.sh"

/-- The script of a repository. -/
def script (root : String) : String :=
  Path.join root scriptName

/-- The cluster configuration of an environment. -/
def kubeconfig (root : String) (env : Environment) : String :=
  Path.join root ("kubeconfig." ++ env.name ++ ".yaml")

/-- The directory two above the one that holds the program, when there is one. -/
def ofExecutable? (executable : String) : Option String :=
  (Path.parent? executable).bind (Path.ancestor? 2)

/-- Why a run has no repository. -/
inductive Error where
  | noDirectory (cause : SystemError)
  | noExecutable (cause : SystemError)
  /-- The place of the program gives no repository. -/
  | underivable (executable : String)
  deriving DecidableEq

/-- What is said when a run has no repository. -/
def Error.message : Error → String
  | noDirectory cause => "read current directory: " ++ cause.message
  | noExecutable cause => "locate running executable: " ++ cause.message
  | underivable executable =>
    "cannot derive repository root from executable " ++ executable ++ "; pass --repo-root"

/-- The repository of a run: the one named, taken from the working directory, or the one that
the place of the program gives.  The working directory is asked for in the first case only, but then
also for a path that does not need it; the program is looked up in the second case only. -/
def resolve (h : Host) : Option String → Except Error String
  | some path =>
    match h.directory with
    | .ok directory => .ok (Path.join directory path)
    | .error cause => .error (.noDirectory cause)
  | none =>
    match h.executable with
    | .error cause => .error (.noExecutable cause)
    | .ok executable =>
      match ofExecutable? executable with
      | some root => .ok root
      | none => .error (.underivable executable)

end Repository

end Onboarding
