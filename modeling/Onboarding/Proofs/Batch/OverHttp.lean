import Onboarding.Proofs.Batch.Way
import Onboarding.Proofs.Clients
import Onboarding.Proofs.Sandbox.Server

/-!
# Records over HTTP

What a server has received when a record ends with both accounts, with Keycloak and Synapse as the
clients.

* `Way.success`: the calls behind a success, each from the state that the one before it left.
* `process_puts`: both PUTs were received.  Each was answered with a good status, or with a
  redirection to a GET that was.
* `process_puts_direct`, `not_process_puts_answered`: both cases are there, so that a success does
  not mean that the password was set.
-/

namespace Onboarding

open Sandbox (Server)
open Sandbox.Server (Reached PutAnswered PutCounted NoPutRedirected)

/-! ## Successful steps -/

section

variable {σ : Type} {send : Http.Transport σ} {notices : List Notice} {s t : σ}

theorem Keycloak.setPassword_ok {k : Keycloak} {session : Session} {id : String}
    {password : Secret} (h : k.setPassword send session id password s = ⟨.ok (), notices, t⟩) :
    let answer := send (k.passwordRequest session id password) s
    (answer.value.status = 200 ∨ answer.value.status = 204) ∧ answer.state = t := by
  intro answer
  obtain ⟨hset, hstate⟩ := k.setPassword_eq send session s id password
  rw [h] at hset hstate
  exact ⟨hset.mp rfl, hstate.symm⟩

theorem Synapse.provision_ok {c : Synapse} {env : Environment} {username : String}
    {password : Secret}
    (h : (c.server send).provision env username password s = ⟨.ok (), notices, t⟩) :
    let answer := send (c.accountRequest username password) s
    (answer.value.status = 200 ∨ answer.value.status = 201) ∧ answer.state = t := by
  intro answer
  obtain ⟨hopened, hstate⟩ := c.provision_eq send env username password s
  rw [h] at hopened hstate
  exact ⟨hopened.mp rfl, hstate.symm⟩

end

namespace Servers

/-- The calls behind a success. -/
theorem Way.success {σ : Type} {servers : Servers σ} {env : Environment} {record : Record}
    {calls : List Call} {events : List Event} {created : Bool} {s t : σ}
    (h : Way servers env record s calls events (.success created) t) :
    ∃ id first reports entered notices more u,
      Identified servers record s created id first reports entered ∧
      servers.identity.setPassword id record.password entered = ⟨.ok (), notices, u⟩ ∧
      servers.chat.provision env record.username record.password u = ⟨.ok (), more, t⟩ := by
  cases h with
  | ended driven =>
    cases driven with
    | identified entry finish =>
      cases finish with
      | done set provision => exact ⟨_, _, _, _, _, _, _, entry, set, provision⟩

end Servers

/-! ## Reached states -/

section

variable (k : Keycloak) (session : Keycloak.Session) (username : String)

theorem Keycloak.find_reached : Act.Advances Reached (k.find Server.transport session username) :=
  Act.Advances.of_agrees Reached.refl fun start =>
    find_agreesOn ((Server.transport_reached _).agrees Reached.trans start)

theorem Keycloak.create_reached :
    Act.Advances Reached (k.create Server.transport session username) :=
  Act.Advances.of_agrees Reached.refl fun start =>
    create_agreesOn ((Server.transport_reached _).agrees Reached.trans start)
      ((Server.transport_reached _).agrees Reached.trans start)

end

namespace Servers

/-- The two clients over one server. -/
def overHttp (k : Keycloak) (session : Keycloak.Session) (c : Synapse) : Servers Server :=
  ⟨k.server Server.transport session, c.server Server.transport⟩

variable {k : Keycloak} {session : Keycloak.Session} {c : Synapse}

theorem identified_reached {record : Record} {created : Bool} {id : String} {calls : List Call}
    {events : List Event} {s t : Server}
    (h : Identified (overHttp k session c) record s created id calls events t) : Reached s t := by
  cases h with
  | found find => exact (k.find_reached session record.username).of_eq find
  | created find create =>
    exact ((k.find_reached session record.username).of_eq find).trans _ _ _
      ((k.create_reached session record.username).of_eq create)

theorem passwordGood_final (status : Nat) (h : passwordGood status) :
    status ≠ 0 ∧ Http.Client.isRedirect status = false := by
  rcases h with rfl | rfl
  · exact ⟨by decide, rfl⟩
  · exact ⟨by decide, rfl⟩

theorem accountGood_final (status : Nat) (h : accountGood status) :
    status ≠ 0 ∧ Http.Client.isRedirect status = false := by
  rcases h with rfl | rfl
  · exact ⟨by decide, rfl⟩
  · exact ⟨by decide, rfl⟩

/-- When a record succeeds over HTTP, both PUTs were received, the one of the password for the id
that was found or made.  The answer to each was good exactly when it was no redirection.  After a
redirection, a good answer to a later GET counted for the PUT.  Where no PUT is redirected, both
have good answers of their own. -/
theorem process_puts (k : Keycloak) (session : Keycloak.Session) (c : Synapse) (env : Environment)
    (record : Record) (counts : Summary) (before : Server) {created : Bool}
    (h : ((overHttp k session c).process env record counts before).value.1 = .success created) :
    let after := ((overHttp k session c).process env record counts before).state
    ∃ id calls events entered,
      Identified (overHttp k session c) record before created id calls events entered ∧
      PutCounted before after (k.passwordUrl id) (Keycloak.newPassword record.password).encode
        passwordGood ∧
      PutCounted before after (c.userUrl record.username) (Synapse.account record.password).encode
        accountGood ∧
      (NoPutRedirected before after →
        PutAnswered before after (k.passwordUrl id) (Keycloak.newPassword record.password).encode
          passwordGood ∧
        PutAnswered before after (c.userUrl record.username)
          (Synapse.account record.password).encode accountGood) := by
  intro after
  obtain ⟨calls, hway, _⟩ := process_way (overHttp k session c) env record counts before
  rw [h] at hway
  obtain ⟨id, first, reports, entered, _, _, u, hentry, hset, hprovision⟩ := hway.success
  obtain ⟨hpassword, hpasswordState⟩ := Keycloak.setPassword_ok hset
  obtain ⟨haccount, haccountState⟩ := Synapse.provision_ok hprovision
  have hafter : after =
      (Server.transport (c.accountRequest record.username record.password) u).state :=
    haccountState.symm
  have hentered : Reached before entered := identified_reached hentry
  have hset : Reached entered u := by
    rw [← hpasswordState]
    exact Server.transport_reached _ entered
  have hprovisioned : Reached u after := by
    rw [hafter]
    exact Server.transport_reached _ u
  have hpasswordCounted : PutCounted before after (k.passwordUrl id)
      (Keycloak.newPassword record.password).encode passwordGood := by
    have hcounted : PutCounted entered u (k.passwordUrl id)
        (Keycloak.newPassword record.password).encode passwordGood := by
      rw [← hpasswordState]
      exact Server.transport_counted passwordGood_final hpassword
    exact (hcounted.until hprovisioned).since hentered
  have haccountCounted : PutCounted before after (c.userUrl record.username)
      (Synapse.account record.password).encode accountGood := by
    have hcounted : PutCounted u after (c.userUrl record.username)
        (Synapse.account record.password).encode accountGood := by
      rw [hafter]
      exact Server.transport_counted accountGood_final haccount
    exact hcounted.since (hentered.trans _ _ _ hset)
  exact ⟨id, first, reports, entered, hentry, hpasswordCounted, haccountCounted,
    fun hstay => ⟨hpasswordCounted.answered hstay, haccountCounted.answered hstay⟩⟩

/-! ### Two runs -/

/-- The place of both servers. -/
def site : Url :=
  ⟨"http".toList, some ⟨[], none, .name "site.test".toList, none⟩, ['/'], none, none⟩

/-- A server at the site with prepared answers, each a status and a location. -/
def prepared (answers : List (Nat × String)) : Server :=
  ⟨"site.test", answers.map fun a =>
    some ⟨a.1, [("location", Utf8.encode a.2.toList)], []⟩, []⟩

/-- A record over a server. -/
def alice (server : Server) : Act.Done Event Server (Outcome × Summary) :=
  (overHttp ⟨site, "dev"⟩ (.ofToken "token") ⟨site, "example.org", ⟨"secret"⟩⟩).process .dev
    ⟨"alice", ⟨"Secret1"⟩⟩ .zero server

/-- A server that knows no user, makes one, sets its password, and makes an account. -/
def direct : Server :=
  prepared [(404, ""), (201, "/users/7"), (204, ""), (201, "")]

theorem direct_succeeds : (alice direct).value.1 = .success true := by
  decide +kernel

theorem process_puts_direct :
    (alice direct).value.1 = .success true ∧ NoPutRedirected direct (alice direct).state ∧
      ∃ id, PutAnswered direct (alice direct).state (Keycloak.passwordUrl ⟨site, "dev"⟩ id)
        (Keycloak.newPassword ⟨"Secret1"⟩).encode passwordGood := by
  obtain ⟨id, _, _, _, _, _, _, hanswered⟩ :=
    process_puts ⟨site, "dev"⟩ (.ofToken "token") ⟨site, "example.org", ⟨"secret"⟩⟩ .dev
      ⟨"alice", ⟨"Secret1"⟩⟩ .zero direct direct_succeeds
  have hstay : NoPutRedirected direct (alice direct).state := by
    rintro n e raw ⟨_, hanswer⟩ _
    rcases n with _ | _ | _ | _ | n <;> cases hanswer <;> rfl
  exact ⟨direct_succeeds, hstay, id, (hanswered hstay).1⟩

/-- A server that knows no user, makes one, sends the PUT of the password to a page, shows the
page, and makes an account. -/
def redirecting : Server :=
  prepared [(404, ""), (201, "/users/7"), (302, "http://site.test/login"), (200, ""), (201, "")]

theorem redirecting_succeeds :
    (alice redirecting).value.1 = .success true ∧
      (alice redirecting).state.received.map (·.method) = ["GET", "POST", "PUT", "GET", "PUT"] := by
  decide +kernel

/-- A success does not mean that the PUT of the password was answered with a good status. -/
theorem not_process_puts_answered :
    ¬ ∀ (k : Keycloak) (session : Keycloak.Session) (c : Synapse) (env : Environment)
      (record : Record) (counts : Summary) (before : Server) (created : Bool),
      ((overHttp k session c).process env record counts before).value.1 = .success created →
      let after := ((overHttp k session c).process env record counts before).state
      ∃ id calls events entered,
        Identified (overHttp k session c) record before created id calls events entered ∧
        PutAnswered before after (k.passwordUrl id) (Keycloak.newPassword record.password).encode
          passwordGood ∧
        PutAnswered before after (c.userUrl record.username)
          (Synapse.account record.password).encode accountGood := by
  intro hclaim
  obtain ⟨id, _, _, _, _, ⟨n, e, raw, ⟨hrequest, hanswer⟩, ⟨hput, _⟩, hgood⟩, _⟩ :=
    hclaim ⟨site, "dev"⟩ (.ofToken "token") ⟨site, "example.org", ⟨"secret"⟩⟩ .dev
      ⟨"alice", ⟨"Secret1"⟩⟩ .zero redirecting true redirecting_succeeds.1
  have hmethod : ["GET", "POST", "PUT", "GET", "PUT"][n]? = some "PUT" := by
    have hstart : redirecting.received.length + n = n := Nat.zero_add n
    rw [hstart] at hrequest
    have hnth : (alice redirecting).state.received[n]? = some e := hrequest
    rw [← redirecting_succeeds.2, List.getElem?_map, hnth, ← hput]
    rfl
  -- Only the third and the fifth request are PUTs, and their answers are 302 and 201.
  rcases n with _ | _ | _ | _ | _ | n
  · exact absurd hmethod (by decide)
  · exact absurd hmethod (by decide)
  · cases hanswer
    rcases hgood with h | h <;> cases h
  · exact absurd hmethod (by decide)
  · cases hanswer
    rcases hgood with h | h <;> cases h
  · cases hmethod

end Servers

end Onboarding
