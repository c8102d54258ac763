import Onboarding.Chat.Script
import Onboarding.Chat.Synapse
import Onboarding.Identity.Keycloak
import Onboarding.Proofs.Batch.Agreement

/-!
# Clients

The clients reach their servers through a transport or a launcher and touch the state in no other
way.

* Good answers.  `Keycloak.setPassword_eq` and `Synapse.provision_eq` say on which answers a PUT
  counts.
* Agreement.  Transports and launchers that agree over related states give clients that agree.  The
  lemmas on one act of a client ask this of the requests of that act only, and
  `Keycloak.AnswersAgree` of those of all acts; tokens and passwords may differ.
-/

namespace Onboarding

/-! ## Good answers -/

namespace Servers

/-- The statuses that Keycloak answers with when a password is set. -/
def passwordGood (status : Nat) : Prop :=
  status = 200 ∨ status = 204

/-- The statuses that Synapse answers with when an account is made or changed. -/
def accountGood (status : Nat) : Prop :=
  status = 200 ∨ status = 201

end Servers

section

open Servers (accountGood passwordGood)

variable {σ : Type}

/-- A password is set exactly when the answer is good. -/
theorem Keycloak.setPassword_eq (k : Keycloak) (send : Http.Transport σ) (session : Session)
    (s : σ) (id : String) (password : Secret) :
    let answer := send (k.passwordRequest session id password) s
    ((k.setPassword send session id password s).value = .ok () ↔
        passwordGood answer.value.status) ∧
      (k.setPassword send session id password s).state = answer.state := by
  intro answer
  by_cases hgood : answer.value.status = 200 ∨ answer.value.status = 204
  · simp [setPassword, passwordGood, answer, hgood]
  · simp [setPassword, passwordGood, answer, hgood]

/-- An account is made or changed exactly when the answer is good. -/
theorem Synapse.provision_eq (c : Synapse) (send : Http.Transport σ) (env : Environment)
    (username : String) (password : Secret) (s : σ) :
    let answer := send (c.accountRequest username password) s
    (((c.server send).provision env username password s).value = .ok () ↔
        accountGood answer.value.status) ∧
      ((c.server send).provision env username password s).state = answer.state := by
  intro answer
  by_cases hgood : answer.value.status = 200 ∨ answer.value.status = 201
  · simp [server, accountGood, answer, hgood]
  · by_cases hreached : answer.value.status = 0
    · simp [server, accountGood, answer, hreached]
    · simp [server, accountGood, answer, hgood, hreached]

end

/-! ## Agreement -/

variable {σ τ : Type} {R : σ → τ → Prop} {send : Http.Transport σ} {send' : Http.Transport τ}

section Requests

variable {k : Keycloak} {session session' : Keycloak.Session} {username : String}

/-! A client agrees with itself where its own requests are answered alike; the two sides may show
different tokens. -/

theorem Keycloak.authenticate_agreesOn {credentials : Credentials}
    (h : Act.Agrees R (send (k.tokenRequest credentials)) (send' (k.tokenRequest credentials))) :
    Act.Agrees R (k.authenticate send credentials) (k.authenticate send' credentials) := by
  refine Act.Agrees.bind h fun response => ?_
  split
  · exact Act.Agrees.pure R _
  · split
    · exact (Act.Agrees.report R _).bind fun _ => Act.Agrees.pure R _
    · split
      · exact Act.Agrees.pure R _
      · exact Act.Agrees.pure R _

theorem Keycloak.find_agreesOn
    (h : Act.Agrees R (send (k.searchRequest session username))
      (send' (k.searchRequest session' username))) :
    Act.Agrees R (k.find send session username) (k.find send' session' username) := by
  refine Act.Agrees.bind h fun response => ?_
  split
  · exact (Act.Agrees.report R _).bind fun _ => Act.Agrees.pure R _
  · split
    · exact Act.Agrees.pure R _
    · exact (Act.Agrees.report R _).bind fun _ => Act.Agrees.pure R _

theorem Keycloak.resolve_agreesOn
    (h : Act.Agrees R (send (k.searchRequest session username))
      (send' (k.searchRequest session' username))) :
    Act.Agrees R (k.resolve send session username) (k.resolve send' session' username) := by
  refine Act.Agrees.bind (find_agreesOn h) fun found => ?_
  cases found with
  | some user => exact Act.Agrees.pure R _
  | none => exact Act.Agrees.pure R _

theorem Keycloak.create_agreesOn
    (hcreate : Act.Agrees R (send (k.createRequest session username))
      (send' (k.createRequest session' username)))
    (hsearch : Act.Agrees R (send (k.searchRequest session username))
      (send' (k.searchRequest session' username))) :
    Act.Agrees R (k.create send session username) (k.create send' session' username) := by
  refine Act.Agrees.bind hcreate fun response => ?_
  split
  · split
    · exact Act.Agrees.pure R _
    · exact resolve_agreesOn hsearch
  · split
    · exact (Act.Agrees.report R _).bind fun _ => resolve_agreesOn hsearch
    · exact Act.Agrees.pure R _

theorem Keycloak.setPassword_agreesOn {id : String} {p q : Secret}
    (h : Act.Agrees R (send (k.passwordRequest session id p))
      (send' (k.passwordRequest session' id q))) :
    Act.Agrees R (k.setPassword send session id p) (k.setPassword send' session' id q) := by
  refine Act.Agrees.bind h fun response => ?_
  split
  · exact Act.Agrees.pure R _
  · exact Act.Agrees.pure R _

/-- Accounts of one user, whatever token each client shows. -/
theorem Synapse.provision_agreeOn {c c' : Synapse} {p q : Secret}
    (h : Act.Agrees R (send (c.accountRequest username p)) (send' (c'.accountRequest username q)))
    (env : Environment) :
    Act.Agrees R ((c.server send).provision env username p)
      ((c'.server send').provision env username q) := by
  refine Act.Agrees.bind h fun response => ?_
  split
  · exact Act.Agrees.pure R _
  · split
    · exact Act.Agrees.pure R _
    · exact Act.Agrees.pure R _

end Requests

theorem Keycloak.authenticate_agrees (hsend : ∀ r, Act.Agrees R (send r) (send' r))
    (k : Keycloak) (credentials : Credentials) :
    Act.Agrees R (k.authenticate send credentials) (k.authenticate send' credentials) :=
  authenticate_agreesOn (hsend _)

namespace Keycloak

/-- Transports that agree on what a client of Keycloak asks.  The two sides may show different
tokens, and set passwords that `S` relates. -/
structure AnswersAgree (R : σ → τ → Prop) (S : Secret → Secret → Prop) (k : Keycloak)
    (send : Http.Transport σ) (send' : Http.Transport τ) (session session' : Session) : Prop where
  search : ∀ username, Act.Agrees R (send (k.searchRequest session username))
    (send' (k.searchRequest session' username))
  create : ∀ username, Act.Agrees R (send (k.createRequest session username))
    (send' (k.createRequest session' username))
  password : ∀ id p q, S p q → Act.Agrees R (send (k.passwordRequest session id p))
    (send' (k.passwordRequest session' id q))

namespace AnswersAgree

variable {S : Secret → Secret → Prop} {k : Keycloak} {session session' : Session}

/-- Beside chat servers that agree, the clients are servers that agree. -/
theorem servers (h : AnswersAgree R S k send send' session session') {chat : Chat σ}
    {chat' : Chat τ}
    (hchat : ∀ env username p q, S p q → Act.Agrees R (chat.provision env username p)
      (chat'.provision env username q)) :
    Servers.AgreeOn R S ⟨k.server send session, chat⟩ ⟨k.server send' session', chat'⟩ where
  find username := find_agreesOn (h.search username)
  create username := create_agreesOn (h.create username) (h.search username)
  setPassword id p q hpq := setPassword_agreesOn (h.password id p q hpq)
  provision := hchat

end AnswersAgree

/-- Keycloak over transports that agree, beside chat servers that agree. -/
theorem servers_agree (hsend : ∀ r, Act.Agrees R (send r) (send' r)) (k : Keycloak)
    (session : Session) {chat : Chat σ} {chat' : Chat τ}
    (hchat : ∀ env username password, Act.Agrees R (chat.provision env username password)
      (chat'.provision env username password)) :
    Servers.Agree R ⟨k.server send session, chat⟩ ⟨k.server send' session, chat'⟩ where
  find _ := find_agreesOn (hsend _)
  create _ := create_agreesOn (hsend _) (hsend _)
  setPassword _ _ := setPassword_agreesOn (hsend _)
  provision := hchat

end Keycloak

theorem Synapse.provision_agrees (hsend : ∀ r, Act.Agrees R (send r) (send' r)) (c : Synapse)
    (env : Environment) (username : String) (password : Secret) :
    Act.Agrees R ((c.server send).provision env username password)
      ((c.server send').provision env username password) :=
  Synapse.provision_agreeOn (hsend _) env

/-- Launchers that see the same files and start programs alike. -/
structure Launcher.Agree (R : σ → τ → Prop) (a : Launcher σ) (b : Launcher τ) : Prop where
  isFile : ∀ path s t, R s t → a.isFile path s = b.isFile path t
  start : ∀ invocation, Act.Agrees R (a.start invocation) (b.start invocation)

theorem Chat.Script.provision_agrees {launcher : Launcher σ} {launcher' : Launcher τ}
    (hlauncher : Launcher.Agree R launcher launcher') (root : String) (env : Environment)
    (username : String) (password : Secret) :
    Act.Agrees R ((Chat.Script.server root launcher).provision env username password)
      ((Chat.Script.server root launcher').provision env username password) := by
  intro s t hst
  have hfile := hlauncher.isFile (Repository.script root) s t hst
  have hstart := hlauncher.start (invocation root env username password) s t hst
  obtain ⟨hvalue, hreports, hstate⟩ := hstart
  cases hcase : launcher'.isFile (Repository.script root) t with
  | false => simp [server, Act.get, hfile, hcase, hst]
  | true => simp [server, Act.get, hfile, hcase, hvalue, hreports, hstate]

end Onboarding
