import Onboarding.Proofs.Clients
import Onboarding.Proofs.Http.Turn
import Onboarding.Proofs.Requests

/-!
# What Keycloak is asked for a record

The requests that lead to the id of a user, and the one that sets the password, each with its
answer.  A `Lookup` is the part up to the id and a `Talk` the whole; both carry the conditions under
which each request is made, so that the answers fix the requests.

* The answers.  `listedId?`, `grantedId?` and `LeavesIdOpen` say what an answer gives away.
* The requests.  `Lookup.turns` and `Talk.turns` put them in order.  A lookup is made by
  `Lookup.ofSearch` or `Lookup.ofCreate`, and becomes a talk by `Lookup.withoutId` or
  `Lookup.withPassword`.
* The client.  `find_eq`, `create_of_granted`, `create_of_open` and `create_of_refused` say what the
  client makes of the answers, over any transport.
* The turns.  `lookup_of_find` and `lookup_of_create` say that a lookup is what is sent, and
  `setPassword_turn` that the turn of the password is.
-/

namespace Onboarding

namespace Keycloak

open Http (Response Sends Turn)
open Servers (passwordGood)

/-! ## Answers -/

/-- The first user that an answer to a search lists. -/
def listed? (answer : Response) : Option User :=
  if answer.status = 200 then ((Json.parse? answer.body).bind users?).bind List.head? else none

/-- The id of the first user that an answer to a search lists. -/
def listedId? (answer : Response) : Option String :=
  (listed? answer).map User.id

/-- The id at the end of the location in an answer. -/
def locatedId? (answer : Response) : Option String :=
  (answer.header? "Location").bind idOfLocation?

/-- The id of a user that was made, when the answer says where the user is. -/
def grantedId? (answer : Response) : Option String :=
  if answer.status = 201 then locatedId? answer else none

/-- The user is there, made or not, and the answer does not say under which id. -/
def LeavesIdOpen (answer : Response) : Prop :=
  answer.status = 409 ∨ answer.status = 201 ∧ locatedId? answer = none

theorem grantedId?_of_open {answer : Response} (h : LeavesIdOpen answer) :
    grantedId? answer = none := by
  rcases h with hconflict | ⟨_, hlocation⟩
  · simp [grantedId?, hconflict]
  · simp [grantedId?, hlocation]

/-- An answer grants an id, leaves it open, or refuses the user. -/
theorem granted_or_open_or_refused (answer : Response) :
    (∃ id, answer.status = 201 ∧ locatedId? answer = some id) ∨ LeavesIdOpen answer ∨
      answer.status ≠ 201 ∧ answer.status ≠ 409 := by
  by_cases hmade : answer.status = 201
  · cases hlocation : locatedId? answer with
    | some id => exact Or.inl ⟨id, hmade, rfl⟩
    | none => exact Or.inr (Or.inl (Or.inr ⟨hmade, hlocation⟩))
  · by_cases hconflict : answer.status = 409
    · exact Or.inr (Or.inl (Or.inl hconflict))
    · exact Or.inr (Or.inr ⟨hmade, hconflict⟩)

/-! ## Requests -/

/-- The answers on the way to the id of a user: to a search, to the request that makes the user when
the search lists none, and to a second search when the answer to that leaves the id open. -/
structure Lookup where
  search : Response
  created : Option Response
  again : Option Response
  created_iff : created.isSome ↔ listedId? search = none
  again_iff : again.isSome ↔ ∃ answer ∈ created, LeavesIdOpen answer

namespace Lookup

/-- The id that the answers give: of the first search, else of the user that was made, else of the
second search. -/
def id? (l : Lookup) : Option String :=
  listedId? l.search <|> l.created.bind grantedId? <|> l.again.bind listedId?

/-- The requests of a lookup with their answers, in order. -/
def turns (k : Keycloak) (session : Session) (username : String) (l : Lookup) : List Turn :=
  ⟨k.getUsers session username, l.search⟩ ::
    (l.created.toList.map (⟨k.postUser session username, ·⟩) ++
      l.again.toList.map (⟨k.getUsers session username, ·⟩))

/-- The lookup of a search that lists a user. -/
def ofSearch (search : Response) {id : String} (h : listedId? search = some id) : Lookup where
  search := search
  created := none
  again := none
  created_iff := by simp [h]
  again_iff := by simp

/-- The lookup of a search that lists no user, and of the request that makes one. -/
def ofCreate (search answer : Response) (again : Option Response) (h : listedId? search = none)
    (hagain : again.isSome ↔ LeavesIdOpen answer) : Lookup where
  search := search
  created := some answer
  again := again
  created_iff := iff_of_true rfl h
  again_iff := by simpa using hagain

theorem id?_ofSearch (search : Response) {id : String} (h : listedId? search = some id) :
    (ofSearch search h).id? = some id := by
  simp [id?, ofSearch, h]

theorem id?_ofCreate (search answer : Response) (again : Option Response)
    (h : listedId? search = none) (hagain : again.isSome ↔ LeavesIdOpen answer) :
    (ofCreate search answer again h hagain).id?
      = (grantedId? answer <|> again.bind listedId?) := by
  simp [id?, ofCreate, h]

end Lookup

/-- A lookup, and the answer to the request that sets the password when there is an id. -/
structure Talk extends Lookup where
  password : Option Response
  password_iff : password.isSome ↔ toLookup.id?.isSome

/-- The requests of a talk with their answers, in order. -/
def Talk.turns (k : Keycloak) (session : Session) (record : Record) (talk : Talk) : List Turn :=
  talk.toLookup.turns k session record.username ++
    talk.id?.toList.flatMap fun id =>
      talk.password.toList.map (⟨k.putPassword session id record.password, ·⟩)

/-- Whether a talk counts as one in which a user was made: the request for it was sent, and an id
was had in the end. -/
def Talk.countsUser (talk : Talk) : Bool :=
  talk.created.isSome && talk.id?.isSome

namespace Lookup

/-- The talk of a lookup that gave no id. -/
def withoutId (l : Lookup) (h : l.id? = none) : Talk where
  toLookup := l
  password := none
  password_iff := by simp [h]

/-- The talk of a lookup that gave an id. -/
def withPassword (l : Lookup) {id : String} (h : l.id? = some id) (answer : Response) : Talk where
  toLookup := l
  password := some answer
  password_iff := by simp [h]

theorem turns_withoutId (k : Keycloak) (session : Session) (record : Record) (l : Lookup)
    (h : l.id? = none) :
    (l.withoutId h).turns k session record = l.turns k session record.username := by
  simp [Talk.turns, withoutId, h]

theorem turns_withPassword (k : Keycloak) (session : Session) (record : Record) (l : Lookup)
    {id : String} (h : l.id? = some id) (answer : Response) :
    (l.withPassword h answer).turns k session record
      = l.turns k session record.username
        ++ [⟨k.putPassword session id record.password, answer⟩] := by
  simp [Talk.turns, withPassword, h]

theorem countsUser_withoutId (l : Lookup) (h : l.id? = none) :
    (l.withoutId h).countsUser = false := by
  simp [Talk.countsUser, withoutId, h]

theorem countsUser_withPassword (l : Lookup) {id : String} (h : l.id? = some id)
    (answer : Response) : (l.withPassword h answer).countsUser = l.created.isSome := by
  simp [Talk.countsUser, withPassword, h]

end Lookup

/-! ## The client -/

section Client

variable {σ : Type} (k : Keycloak) (send : Http.Transport σ) (session : Session)
  (username : String) (s : σ)

/-- A search gives the first user that its answer lists. -/
theorem find_eq :
    let answer := send (k.searchRequest session username) s
    (k.find send session username s).value = listed? answer.value ∧
      (k.find send session username s).state = answer.state := by
  intro answer
  by_cases hstatus : answer.value.status = 200
  · cases husers : (Json.parse? answer.value.body).bind users? with
    | some users => simp [find, listed?, answer, hstatus, husers]
    | none => simp [find, listed?, answer, hstatus, husers]
  · simp [find, listed?, answer, hstatus]

/-- A user that is known to exist has the id of the first user that a search lists. -/
theorem resolve_eq :
    let answer := send (k.searchRequest session username) s
    (k.resolve send session username s).value.toOption = listedId? answer.value ∧
      (k.resolve send session username s).state = answer.state := by
  intro answer
  obtain ⟨hvalue, hstate⟩ := k.find_eq send session username s
  cases hlisted : listed? answer.value with
  | some user =>
    rw [hlisted] at hvalue
    simp [resolve, listedId?, hvalue, hstate, hlisted, Except.toOption, answer]
  | none =>
    rw [hlisted] at hvalue
    simp [resolve, listedId?, hvalue, hstate, hlisted, Except.toOption, answer]

/-- A search is one turn. -/
theorem find_sends :
    ∃ answer, (k.find send session username s).value = listed? answer ∧
      Sends send s [⟨k.getUsers session username, answer⟩]
        (k.find send session username s).state := by
  obtain ⟨hvalue, hstate⟩ := k.find_eq send session username s
  rw [hstate, ← searchRequest_eq]
  exact ⟨_, hvalue, .one send _ s⟩

/-- A search for a user that is known to exist is one turn. -/
theorem resolve_sends :
    ∃ answer, (k.resolve send session username s).value.toOption = listedId? answer ∧
      Sends send s [⟨k.getUsers session username, answer⟩]
        (k.resolve send session username s).state := by
  obtain ⟨hvalue, hstate⟩ := k.resolve_eq send session username s
  rw [hstate, ← searchRequest_eq]
  exact ⟨_, hvalue, .one send _ s⟩

theorem create_of_granted {id : String}
    (h : (send (k.createRequest session username) s).value.status = 201)
    (hid : locatedId? (send (k.createRequest session username) s).value = some id) :
    (k.create send session username s).value = .ok id ∧
      (k.create send session username s).state
        = (send (k.createRequest session username) s).state := by
  rw [locatedId?] at hid
  simp [create, h, hid]

/-- A user whose id was left open is resolved from the state after the answer. -/
theorem create_of_open (h : LeavesIdOpen (send (k.createRequest session username) s).value) :
    let resolved := k.resolve send session username
      (send (k.createRequest session username) s).state
    (k.create send session username s).value = resolved.value ∧
      (k.create send session username s).state = resolved.state := by
  intro resolved
  rcases h with hconflict | ⟨hmade, hlocation⟩
  · simp [create, hconflict, resolved]
  · rw [locatedId?] at hlocation
    simp [create, hmade, hlocation, resolved]

theorem create_of_refused
    (h : (send (k.createRequest session username) s).value.status ≠ 201)
    (h' : (send (k.createRequest session username) s).value.status ≠ 409) :
    (k.create send session username s).value
        = .error (.createRejected (send (k.createRequest session username) s).value.status) ∧
      (k.create send session username s).state
        = (send (k.createRequest session username) s).state := by
  simp [create, h, h']

end Client

/-! ## Turns -/

section Turns

variable {σ : Type} {k : Keycloak} {send : Http.Transport σ} {session : Session}
  {username : String} {notices more : List Notice} {s t u : σ}

/-- A search is one turn. -/
theorem find_turn {found : Option User}
    (h : k.find send session username s = ⟨found, notices, t⟩) :
    ∃ answer, found = listed? answer ∧ Sends send s [⟨k.getUsers session username, answer⟩] t := by
  have hsends := k.find_sends send session username s
  rwa [h] at hsends

/-- The request that makes a user is one turn. -/
theorem createRequest_sends :
    Sends send s
      [⟨k.postUser session username, (send (k.createRequest session username) s).value⟩]
      (send (k.createRequest session username) s).state := by
  rw [createRequest_eq]
  exact .one send _ s

/-- Making a user is one turn, and a search when the id is left open. -/
theorem create_turns {made : Except IdentityError String}
    (h : k.create send session username s = ⟨made, notices, t⟩) :
    ∃ (answer : Response) (again : Option Response),
      (again.isSome ↔ LeavesIdOpen answer) ∧
      made.toOption = (grantedId? answer <|> again.bind listedId?) ∧
      Sends send s (⟨k.postUser session username, answer⟩ ::
        again.toList.map (⟨k.getUsers session username, ·⟩)) t := by
  rcases granted_or_open_or_refused (send (k.createRequest session username) s).value with
    ⟨id, hmade, hlocation⟩ | hopen | ⟨hmade, hconflict⟩
  · obtain ⟨hvalue, hstate⟩ := k.create_of_granted send session username s hmade hlocation
    rw [h] at hvalue hstate
    obtain rfl := hstate
    refine ⟨(send (k.createRequest session username) s).value, none, ?_, ?_,
      createRequest_sends⟩
    · simp [LeavesIdOpen, hmade, hlocation]
    · rw [grantedId?, if_pos hmade, hlocation, show made = .ok id from hvalue]
      rfl
  · obtain ⟨hvalue, hstate⟩ := k.create_of_open send session username s hopen
    rw [h] at hvalue hstate
    obtain rfl := hstate
    obtain ⟨again, hid, hsends⟩ := k.resolve_sends send session username
      (send (k.createRequest session username) s).state
    refine ⟨(send (k.createRequest session username) s).value, some again,
      iff_of_true rfl hopen, ?_, createRequest_sends.append hsends⟩
    rw [grantedId?_of_open hopen, show made = _ from hvalue]
    exact hid
  · obtain ⟨hvalue, hstate⟩ := k.create_of_refused send session username s hmade hconflict
    rw [h] at hvalue hstate
    obtain rfl := hstate
    refine ⟨(send (k.createRequest session username) s).value, none, ?_, ?_,
      createRequest_sends⟩
    · simp [LeavesIdOpen, hmade, hconflict]
    · rw [grantedId?, if_neg hmade, show made = _ from hvalue]
      rfl

/-- A user that a search finds is a lookup of one turn. -/
theorem lookup_of_find {user : User}
    (h : k.find send session username s = ⟨some user, notices, t⟩) :
    ∃ l : Lookup, l.created.isSome = false ∧ l.id? = some user.id ∧
      Sends send s (l.turns k session username) t := by
  obtain ⟨answer, hfound, hsends⟩ := find_turn h
  have hlisted : listedId? answer = some user.id := by
    rw [listedId?, ← hfound]
    rfl
  exact ⟨.ofSearch answer hlisted, rfl, Lookup.id?_ofSearch answer hlisted, hsends⟩

/-- A user that is not found and then made, or not made, is a lookup with the request for it. -/
theorem lookup_of_create {made : Except IdentityError String}
    (hfind : k.find send session username s = ⟨none, notices, t⟩)
    (hcreate : k.create send session username t = ⟨made, more, u⟩) :
    ∃ l : Lookup, l.created.isSome ∧ l.id? = made.toOption ∧
      Sends send s (l.turns k session username) u := by
  obtain ⟨search, hfound, hsearch⟩ := find_turn hfind
  obtain ⟨answer, again, hagain, hid, hsends⟩ := create_turns hcreate
  have hlisted : listedId? search = none := by
    rw [listedId?, ← hfound]
    rfl
  refine ⟨.ofCreate search answer again hlisted hagain, rfl, ?_, hsearch.append hsends⟩
  rw [Lookup.id?_ofCreate, hid]

/-- Setting a password is one turn. -/
theorem setPassword_turn {id : String} {password : Secret} {set : Except IdentityError Unit}
    (h : k.setPassword send session id password s = ⟨set, notices, t⟩) :
    ∃ answer, (set = .ok () ↔ passwordGood answer.status) ∧
      Sends send s [⟨k.putPassword session id password, answer⟩] t := by
  obtain ⟨hvalue, hstate⟩ := k.setPassword_eq send session s id password
  rw [h] at hvalue hstate
  obtain rfl := hstate
  rw [passwordRequest_eq] at hvalue ⊢
  exact ⟨_, hvalue, .one send _ s⟩

end Turns

end Keycloak

end Onboarding
