import Mathlib.Data.List.Forall2
import Onboarding.Http.Script
import Onboarding.Proofs.Batch.Conversation
import Onboarding.Proofs.Identity.Grant
import Onboarding.Proofs.Json.Members
import Onboarding.Proofs.Json.Written

/-!
# The first user that a search lists

A search asks the server for the users of exactly one name, and the first user of the answer is
taken for the one that was asked for.  Nothing compares the names: a server that lists other users
too has the password of the first of them set.

* Lists.  `Lists` says which users an answer lists, by the members of its objects, and
  `listed?_of_lists` that the first of them is taken.
* Exactness.  `head?_eq_find?_iff` says when the first element is the first that has a property.
* Records.  `process_takes_first` is what a record does with the first user.
-/

namespace Onboarding

open Http (Response Sends Turn)
open Json (valuesNamed)
open Keycloak (plainKeycloak)

namespace Keycloak

/-! ## Lists -/

/-- A value that describes a user: an object with one id and one name among other members. -/
inductive Describes : Json → User → Prop where
  | object {members : List (Option String × Json)} {user : User}
      (named : ∀ m ∈ members, m.1.isSome)
      (oneId : valuesNamed "id" members = [Json.text user.id])
      (oneName : valuesNamed "username" members = [Json.text user.username]) :
      Describes (.object members) user

/-- An answer to a search that lists users, in order. -/
structure Lists (answer : Response) (users : List User) : Prop where
  status : answer.status = 200
  body : ∃ items, Json.parse? answer.body = some (.array items) ∧ List.Forall₂ Describes items users

/-- A user is read from what describes it. -/
theorem user?_of_describes {json : Json} {user : User} (h : Describes json user) :
    user? json = some user := by
  cases h with
  | @object members _ hnamed hid hname =>
    obtain ⟨named, hread⟩ := Json.exists_namedMembers_iff.mpr hnamed
    rw [← Json.valuesOf_namedMembers hread] at hid hname
    have honeId : Json.only? "id" named = some (some (Json.text user.id)) :=
      Json.only?_eq_some_iff.mpr hid
    have honeName : Json.only? "username" named = some (some (Json.text user.username)) :=
      Json.only?_eq_some_iff.mpr hname
    simp [user?, hread, honeId, honeName, Json.text, Json.text?]

/-- Users are read from a list of what describes them. -/
theorem users?_of_describes {items : List Json} {users : List User}
    (h : List.Forall₂ Describes items users) : users? (.array items) = some users := by
  rw [users?]
  induction h with
  | nil => rfl
  | cons hfirst _ ih => simp [List.mapM_cons, user?_of_describes hfirst, ih]

/-- The first user of a list is taken. -/
theorem listed?_of_lists {answer : Response} {users : List User} (h : Lists answer users) :
    listed? answer = users.head? := by
  obtain ⟨items, hparse, hitems⟩ := h.body
  rw [listed?, if_pos h.status, hparse, Option.bind_some, users?_of_describes hitems,
    Option.bind_some]

end Keycloak

/-! ## Exactness -/

/-- The first element is the first with a property when it has the property itself. -/
theorem head?_eq_find?_iff {α : Type} (p : α → Bool) (l : List α) :
    l.head? = l.find? p ↔ ∀ a ∈ l.head?, p a := by
  cases l with
  | nil => simp
  | cons a rest =>
    constructor
    · intro h b hb
      rw [h] at hb
      exact List.find?_some hb
    · intro h
      rw [List.find?_cons_of_pos (h a rfl)]
      rfl

namespace Servers

/-! ## Records -/

/-- The turns of a record whose search found the user of an id: the search, the password of that
user, and at most one account. -/
def foundTurns (k : Keycloak) (session : Keycloak.Session) (c : Synapse) (record : Record)
    (search : Response) (id : String) (reset : Response) (account : Option Response) : List Turn :=
  ⟨k.getUsers session record.username, search⟩ ::
    ⟨k.putPassword session id record.password, reset⟩ ::
    account.toList.map (⟨c.putAccount record.username record.password, ·⟩)

section

variable {σ : Type} {k : Keycloak} {session : Keycloak.Session} {c : Synapse}
  {send : Http.Transport σ} {env : Environment} {record : Record} {s t u : σ}
  {calls : List Call} {events : List Event} {outcome : Outcome}

/-- With an id, a record sets the password of that id, and opens an account at most. -/
theorem Finished.turns {created : Bool} {id : String}
    (h : Finished (overTransport k session c send) env record created id t calls events outcome u) :
    ∃ (reset : Response) (account : Option Response),
      Sends send t (⟨k.putPassword session id record.password, reset⟩ ::
        account.toList.map (⟨c.putAccount record.username record.password, ·⟩)) u := by
  cases h with
  | passwordRefused set =>
    obtain ⟨reset, -, hsends⟩ := Keycloak.setPassword_turn set
    exact ⟨reset, none, hsends⟩
  | accountRefused set provision | done set provision =>
    obtain ⟨reset, -, hreset⟩ := Keycloak.setPassword_turn set
    obtain ⟨account, -, haccount⟩ := Synapse.provision_turn provision
    exact ⟨reset, some account, hreset.append haccount⟩

/-- A record whose search finds a user goes on with the id of that user. -/
theorem Way.turns_of_found {user : User}
    (h : Way (overTransport k session c send) env record s calls events outcome u)
    (hfound : (k.find send session record.username s).value = some user) :
    ∃ reset account, Sends send s (foundTurns k session c record
      (send (k.searchRequest session record.username) s).value user.id reset account) u := by
  have hnone : ∀ {notices : List Notice} {t : σ},
      k.find send session record.username s ≠ ⟨none, notices, t⟩ := by
    intro notices t hfind
    rw [hfind] at hfound
    cases hfound
  rcases h with ⟨hdriven⟩
  cases hdriven with
  | notCreated find create => exact absurd find hnone
  | identified entry finish =>
    cases entry with
    | created find create => exact absurd find hnone
    | found find =>
      have hfind : k.find send session record.username s = _ := find
      have hsearched := (k.find_eq send session record.username s).2
      rw [hfind] at hfound hsearched
      obtain rfl := Option.some.inj hfound
      obtain rfl := hsearched
      obtain ⟨reset, account, hsends⟩ := finish.turns
      exact ⟨reset, account, .cons hsends⟩

end

/-- What a record does with the users that the answer to its search lists, whatever their names are.
The first of them is taken for its user, and the next request sets the password of that one.  This
is the first user with the name of the record, or none where no user has it, exactly when the first
user that is listed has that name. -/
theorem process_takes_first {σ : Type} (k : Keycloak) (session : Keycloak.Session) (c : Synapse)
    (send : Http.Transport σ) (env : Environment) (record : Record) (counts : Summary) (s : σ)
    (turns : List Turn) {users : List User}
    (h : Keycloak.Lists (send (k.searchRequest session record.username) s).value users) :
    let found := k.find send session record.username s
    let recorded :=
      (overTransport k session c send.recorded).process env record counts (s, turns)
    found.value = users.head? ∧
      (found.value = users.find? (·.username == record.username) ↔
        ∀ user ∈ users.head?, user.username = record.username) ∧
      ∀ user, users.head? = some user →
        ∃ reset account, recorded.state.2 = turns ++ foundTurns k session c record
          (send (k.searchRequest session record.username) s).value user.id reset account := by
  intro found recorded
  have hfound : found.value = users.head? := by
    rw [← Keycloak.listed?_of_lists h]
    exact (k.find_eq send session record.username s).1
  refine ⟨hfound, ?_, fun user hfirst => ?_⟩
  · rw [hfound, head?_eq_find?_iff]
    simp only [beq_iff_eq]
  · obtain ⟨calls, hway, -⟩ :=
      process_way (overTransport k session c send.recorded) env record counts (s, turns)
    have hsearch : (k.find send.recorded session record.username (s, turns)).value = some user := by
      rw [← hfirst, ← Keycloak.listed?_of_lists h]
      exact (k.find_eq send.recorded session record.username (s, turns)).1
    obtain ⟨reset, account, hsends⟩ := hway.turns_of_found hsearch
    exact ⟨reset, account, hsends.recorded⟩

/-- An answer that lists two users, of which the second has the name that is asked for. -/
def crowdedAnswer : Response :=
  ⟨200, [], Utf8.encode ("[\x7b\"id\":\"u1\",\"username\":\"alice2\"\x7d,"
    ++ "\x7b\"id\":\"u2\",\"username\":\"alice\"\x7d]").toList⟩

theorem crowdedAnswer_lists : Keycloak.Lists crowdedAnswer [⟨"u1", "alice2"⟩, ⟨"u2", "alice"⟩] := by
  have htext : ∀ id username, Json.Textual (.object
      [(some "id", Json.text id), (some "username", Json.text username)]) :=
    fun id username => .object (by simp) (by simp [Json.Textual.text])
  have hparse : Json.parse? crowdedAnswer.body = some (.array
      [.object [(some "id", Json.text "u1"), (some "username", Json.text "alice2")],
        .object [(some "id", Json.text "u2"), (some "username", Json.text "alice")]]) :=
    Json.parse?_of_written (by decide) (.array (by simp [htext]))
  exact ⟨rfl, _, hparse, .cons (.object (by simp) rfl rfl) (.cons (.object (by simp) rfl rfl) .nil)⟩

/-- A server that answers a search with the two users, and then sets a password and makes an
account. -/
def crowded : Http.Script :=
  .ofAnswers [crowdedAnswer, ⟨204, [], []⟩, ⟨201, [], []⟩]

/-- A Synapse beside the Keycloak at the root of a host. -/
def besideSynapse : Synapse :=
  ⟨plainKeycloak.base, "example.org", ⟨"syt"⟩⟩

theorem process_takes_first_crowded :
    Keycloak.Lists
        (Http.Script.send (plainKeycloak.searchRequest (.ofToken "token") "alice") crowded).value
        [⟨"u1", "alice2"⟩, ⟨"u2", "alice"⟩] ∧
      (plainKeycloak.find Http.Script.send (.ofToken "token") "alice" crowded).value
        = some ⟨"u1", "alice2"⟩ ∧
      (plainKeycloak.passwordUrl "u1").text
        = "https://kc.example/admin/realms/dev/users/u1/reset-password" ∧
      ∃ reset account,
        ((overTransport plainKeycloak (.ofToken "token") besideSynapse
            (Http.Transport.recorded Http.Script.send)).process .dev ⟨"alice", ⟨"Secret1"⟩⟩ .zero
            (crowded, [])).state.2
          = foundTurns plainKeycloak (.ofToken "token") besideSynapse ⟨"alice", ⟨"Secret1"⟩⟩
            crowdedAnswer "u1" reset account := by
  obtain ⟨hfound, -, hturns⟩ := process_takes_first plainKeycloak (.ofToken "token") besideSynapse
    Http.Script.send .dev ⟨"alice", ⟨"Secret1"⟩⟩ .zero crowded [] crowdedAnswer_lists
  exact ⟨crowdedAnswer_lists, hfound, by decide +kernel, hturns ⟨"u1", "alice2"⟩ rfl⟩

/-- A search need not find a user of the name that was asked for, neither only such a user nor the
first one that is listed. -/
theorem not_find_exact :
    (¬ ∀ (k : Keycloak) (session : Keycloak.Session) (username : String) (answer : Response)
        (users : List User), Keycloak.Lists answer users →
        (∀ user ∈ users, user.id ≠ "" ∧ user.username ≠ "") →
        ∀ user, (k.find Http.Script.send session username (.ofAnswers [answer])).value = some user →
          user.username = username) ∧
      ¬ ∀ (k : Keycloak) (session : Keycloak.Session) (username : String) (answer : Response)
        (users : List User), Keycloak.Lists answer users →
        (∀ user ∈ users, user.id ≠ "" ∧ user.username ≠ "") →
        ∀ user, users.find? (·.username == username) = some user →
          (k.find Http.Script.send session username (.ofAnswers [answer])).value = some user := by
  have hfind := (plainKeycloak.find_eq Http.Script.send (.ofToken "token") "alice"
    (.ofAnswers [crowdedAnswer])).1
  have hvalue : (plainKeycloak.find Http.Script.send (.ofToken "token") "alice"
      (.ofAnswers [crowdedAnswer])).value = some ⟨"u1", "alice2"⟩ :=
    hfind.trans (Keycloak.listed?_of_lists crowdedAnswer_lists)
  constructor
  · intro hclaim
    have hname := hclaim plainKeycloak (.ofToken "token") "alice" crowdedAnswer _
      crowdedAnswer_lists (by decide) _ hvalue
    exact absurd hname (by decide)
  · intro hclaim
    have hfirst := hclaim plainKeycloak (.ofToken "token") "alice" crowdedAnswer _
      crowdedAnswer_lists (by decide) ⟨"u2", "alice"⟩ (by decide)
    rw [hvalue] at hfirst
    exact absurd hfirst (by decide)

end Servers

end Onboarding
