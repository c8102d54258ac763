import Onboarding.Chat.Basic

/-!
# Chat accounts in memory

A chat server that fails for chosen names as a failing script does, and keeps its calls.
-/

namespace Onboarding

namespace Chat

/-- A call of the server, as it is kept. -/
structure Memory.Call where
  env : Environment
  username : String
  password : String
  deriving DecidableEq

/-- The calls so far. -/
abbrev Memory : Type :=
  List Memory.Call

namespace Memory

/-- The server that fails for `failing`. -/
def server (failing : List String) : Chat Memory where
  provision env username password := Act.ofFunction fun calls =>
    (if failing.contains username then .error (.scriptFailed (.exited 1) "boom") else .ok (),
      calls ++ [⟨env, username, password.reveal⟩])

end Memory

end Chat

end Onboarding
