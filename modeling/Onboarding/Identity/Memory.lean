import Onboarding.Identity.Basic

/-!
# Users in memory

An identity server that is a list of users.  It refuses chosen names and chosen ids, and gives a
new user the id `id-` and the name.
-/

namespace Onboarding

namespace Identity

/-- A call of the server, as it is kept. -/
inductive Memory.Call where
  | find (username : String)
  | create (username : String)
  | setPassword (id password : String)
  deriving DecidableEq

/-- The names that are refused and the ids whose passwords stay. -/
structure Memory.Refusals where
  create : List String
  password : List String

/-- The ids of users by their names, and the calls so far. -/
structure Memory where
  users : List (String × String)
  calls : List Memory.Call

namespace Memory

/-- The id of a user. -/
def idOf? (m : Memory) (username : String) : Option String :=
  m.users.lookup username

/-- The id that a new user gets. -/
def newId (username : String) : String :=
  "id-" ++ username

/-- The memory with an id for a user, in place of any other that the user had. -/
def insert (m : Memory) (username id : String) : Memory :=
  { m with users := m.users.filter (·.1 != username) ++ [(username, id)] }

/-- The memory after a call. -/
def note (m : Memory) (call : Call) : Memory :=
  { m with calls := m.calls ++ [call] }

/-- The server. -/
def server (refusals : Refusals) : Identity Memory where
  find username := Act.ofFunction fun m =>
    ((m.idOf? username).map (⟨·, username⟩), m.note (.find username))
  create username := Act.ofFunction fun m =>
    let m := m.note (.create username)
    if refusals.create.contains username then (.error (.createRejected 500), m)
    else (.ok (newId username), m.insert username (newId username))
  setPassword id password := Act.ofFunction fun m =>
    let m := m.note (.setPassword id password.reveal)
    if refusals.password.contains id then (.error (.passwordRejected 403), m) else (.ok (), m)

end Memory

end Identity

end Onboarding
