import Onboarding.Proofs.Batch.FirstListed
import Onboarding.Proofs.Json.Written

/-!
# Bodies

What the bodies of requests and of answers say once they are read.  No name and no password,
whatever its characters are, gets out of its string to add a member to a body or to change one.

* Requests.  `Keycloak.textual_newUser`, `Keycloak.textual_newPassword` and
  `Synapse.textual_account` are what `Json.parse?_encode` asks of the bodies that are sent.
* Answers.  `Keycloak.listing` is an answer that lists users by the same writer, each with its
  members in one order or the other.
* `bodies_read_back` puts them together.
-/

namespace Onboarding

open Http (Response)
open Keycloak (plainKeycloak)

/-! ## Requests -/

/-- An object whose names are texts takes no more than values without numbers. -/
theorem Json.textual_ofMembers {members : List (String × Json)} (h : ∀ m ∈ members, Json.Textual m.2) :
    Json.Textual (Json.ofMembers members) := by
  refine .object ?_ ?_
  · rintro _ hm
    obtain ⟨m, -, rfl⟩ := List.mem_map.mp hm
    rfl
  · rintro _ hm
    obtain ⟨m, hmember, rfl⟩ := List.mem_map.mp hm
    exact h m hmember

namespace Keycloak

theorem textual_newUser (username : String) : Json.Textual (newUser username) :=
  Json.textual_ofMembers (by simp [Json.Textual.bool, Json.Textual.text])

theorem textual_newPassword (password : Secret) : Json.Textual (newPassword password) :=
  Json.textual_ofMembers (by simp [Json.Textual.bool, Json.Textual.text])

end Keycloak

theorem Synapse.textual_account (password : Secret) : Json.Textual (Synapse.account password) :=
  Json.textual_ofMembers (by simp [Json.Textual.bool, Json.Textual.text])

/-! ## Answers -/

namespace Keycloak

/-- Which of the two members of a user is written first. -/
inductive MemberOrder where
  | idFirst
  | nameFirst
  deriving DecidableEq

/-- A user as an object of its id and its name. -/
def described (order : MemberOrder) (user : User) : Json :=
  match order with
  | .idFirst => Json.ofMembers [("id", Json.text user.id), ("username", Json.text user.username)]
  | .nameFirst => Json.ofMembers [("username", Json.text user.username), ("id", Json.text user.id)]

/-- Users as an array, each with its own order of members. -/
def listing (users : List (MemberOrder × User)) : Json :=
  .array (users.map fun listed => described listed.1 listed.2)

theorem textual_described (order : MemberOrder) (user : User) :
    Json.Textual (described order user) := by
  cases order with
  | idFirst => exact Json.textual_ofMembers (by simp [Json.Textual.text])
  | nameFirst => exact Json.textual_ofMembers (by simp [Json.Textual.text])

theorem textual_listing (users : List (MemberOrder × User)) : Json.Textual (listing users) := by
  refine .array fun item hitem => ?_
  obtain ⟨listed, -, rfl⟩ := List.mem_map.mp hitem
  exact textual_described listed.1 listed.2

/-- A user is described by its members in either order. -/
theorem describes_described (order : MemberOrder) (user : User) :
    Describes (described order user) user := by
  cases order with
  | idFirst => exact .object (by simp) rfl rfl
  | nameFirst => exact .object (by simp) rfl rfl

/-- An answer whose body is such an array lists its users. -/
theorem lists_listing {answer : Response} {users : List (MemberOrder × User)}
    (hstatus : answer.status = 200) (hbody : answer.body = (listing users).encode) :
    Lists answer (users.map (·.2)) := by
  refine ⟨hstatus, _, by rw [hbody, Json.parse?_encode (textual_listing users), listing], ?_⟩
  rw [List.forall₂_map_left_iff, List.forall₂_map_right_iff, List.forall₂_same]
  exact fun listed _ => describes_described listed.1 listed.2

end Keycloak

namespace Servers

open Keycloak (MemberOrder listing)

/-- What is read of the bodies that make a user, set a password and make an account, and of an
answer that lists users, whatever the names, the ids and the password are.  Each request holds its
three members and no other, one of them the name or the password as it was given; and a search whose
answer lists users gives the first of them, or none of no users. -/
theorem bodies_read_back {σ : Type} (k : Keycloak) (c : Synapse) (session : Keycloak.Session)
    (username id : String) (password : Secret) (send : Http.Transport σ) (s : σ)
    (users : List (MemberOrder × User)) :
    (k.createRequest session username).body.bind Json.parse?
        = some (Json.ofMembers
          [("emailVerified", .bool true), ("enabled", .bool true), ("username", Json.text username)]) ∧
      (k.passwordRequest session id password).body.bind Json.parse?
        = some (Json.ofMembers
          [("temporary", .bool false), ("type", Json.text "password"),
            ("value", Json.text password.reveal)]) ∧
      (c.accountRequest username password).body.bind Json.parse?
        = some (Json.ofMembers
          [("admin", .bool false), ("deactivated", .bool false),
            ("password", Json.text password.reveal)]) ∧
      ((send (k.searchRequest session username) s).value.status = 200 →
        (send (k.searchRequest session username) s).value.body = (listing users).encode →
        (k.find send session username s).value = (users.map (·.2)).head?) := by
  refine ⟨?_, ?_, ?_, fun hstatus hbody => ?_⟩
  · rw [Keycloak.createRequest, Option.bind_some,
      Json.parse?_encode (Keycloak.textual_newUser username), Keycloak.newUser]
  · rw [Keycloak.passwordRequest, Option.bind_some,
      Json.parse?_encode (Keycloak.textual_newPassword password), Keycloak.newPassword]
  · rw [Synapse.accountRequest, Option.bind_some,
      Json.parse?_encode (Synapse.textual_account password), Synapse.account]
  · rw [(k.find_eq send session username s).1,
      Keycloak.listed?_of_lists (Keycloak.lists_listing hstatus hbody)]

/-- A text of a quote, a backslash, a control, a character of two code units, and what would add a
member if the quote ended a string. -/
def awkward : String :=
  "\"\\\x01\n😀\",\"admin\":true"

/-- Two users with such texts, the members of which are in different orders. -/
def awkwardUsers : List (MemberOrder × User) :=
  [(.nameFirst, ⟨awkward, "alice\\"⟩), (.idFirst, ⟨"u2", awkward⟩)]

theorem bodies_read_back_awkward :
    (plainKeycloak.createRequest (.ofToken "token") awkward).body.bind Json.parse?
        = some (Json.ofMembers
          [("emailVerified", .bool true), ("enabled", .bool true), ("username", Json.text awkward)]) ∧
      (plainKeycloak.passwordRequest (.ofToken "token") awkward ⟨awkward⟩).body.bind Json.parse?
        = some (Json.ofMembers
          [("temporary", .bool false), ("type", Json.text "password"),
            ("value", Json.text awkward)]) ∧
      (besideSynapse.accountRequest awkward ⟨awkward⟩).body.bind Json.parse?
        = some (Json.ofMembers
          [("admin", .bool false), ("deactivated", .bool false), ("password", Json.text awkward)]) ∧
      (plainKeycloak.find Http.Script.send (.ofToken "token") awkward
          (.ofAnswers [⟨200, [], (listing awkwardUsers).encode⟩])).value
        = some ⟨awkward, "alice\\"⟩ := by
  obtain ⟨hcreate, hreset, haccount, hfind⟩ := bodies_read_back plainKeycloak besideSynapse
    (.ofToken "token") awkward awkward ⟨awkward⟩ Http.Script.send
    (.ofAnswers [⟨200, [], (listing awkwardUsers).encode⟩]) awkwardUsers
  exact ⟨hcreate, hreset, haccount, hfind rfl rfl⟩

end Servers

end Onboarding
