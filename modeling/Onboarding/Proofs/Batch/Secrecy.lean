import Onboarding.Http.Script
import Onboarding.Log
import Onboarding.Proofs.Batch.Conversation
import Onboarding.Proofs.Batch.OverHttp

/-!
# What secrets do to a batch

Two batches for the same users, with passwords and tokens of their own, over servers that give the
same answers.  Nothing that can be seen tells them apart but the secrets in the requests themselves.

* Requests.  `SameButSecrets` are requests that differ at most in the token of their first header
  and, for a PUT, in one member of their body.  Each request of the two clients is the same but for
  secrets as that of a client with other secrets.
* Answers.  A scripted server gives the same answers whatever it is asked (`Script.send_agrees`).
* Runs.  `run_same_but_secrets` carries this over whole batches.
-/

namespace Onboarding

open Http (Request Script)
open Keycloak (Session)

/-! ## Requests -/

namespace Http

/-- The header that shows a token. -/
def bearer (token : String) : String × String :=
  ("Authorization", "Bearer " ++ token)

/-- An object with a password as the member `name`, as the body of a request. -/
def passwordBody (before after : List (String × Json)) (name password : String) : Bytes :=
  (Json.ofMembers (before ++ (name, Json.text password) :: after)).encode

/-- Bodies that differ at most in a password, which is the member `value` or `password`. -/
inductive SamePayload (method : String) : Option Bytes → Option Bytes → Prop where
  | same (body : Option Bytes) : SamePayload method body body
  | password (put : method = "PUT") (before after : List (String × Json)) (name : String)
      (hname : name = "value" ∨ name = "password") (p q : String) :
      SamePayload method (some (passwordBody before after name p))
        (some (passwordBody before after name q))

/-- Requests that differ at most in the token that they show and in the password of a PUT. -/
structure SameButSecrets (a b : Request) : Prop where
  method : a.method = b.method
  url : a.url = b.url
  headers : ∃ token token' rest, a.headers = bearer token :: rest ∧ b.headers = bearer token' :: rest
  body : SamePayload a.method a.body b.body

end Http

open Http (SameButSecrets SamePayload)

namespace Keycloak

variable (k : Keycloak) (session session' : Session)

theorem searchRequest_same (username : String) :
    SameButSecrets (k.searchRequest session username) (k.searchRequest session' username) where
  method := rfl
  url := rfl
  headers := ⟨_, _, _, rfl, rfl⟩
  body := .same none

theorem createRequest_same (username : String) :
    SameButSecrets (k.createRequest session username) (k.createRequest session' username) where
  method := rfl
  url := rfl
  headers := ⟨_, _, _, rfl, rfl⟩
  body := .same _

theorem passwordRequest_same (id : String) (p q : Secret) :
    SameButSecrets (k.passwordRequest session id p) (k.passwordRequest session' id q) where
  method := rfl
  url := rfl
  headers := ⟨_, _, _, rfl, rfl⟩
  body := .password rfl [("temporary", .bool false), ("type", Json.text "password")] [] "value"
    (Or.inl rfl) p.reveal q.reveal

end Keycloak

theorem Synapse.accountRequest_same (base : Url) (serverName : String) (token token' : Secret)
    (username : String) (p q : Secret) :
    SameButSecrets (Synapse.accountRequest ⟨base, serverName, token⟩ username p)
      (Synapse.accountRequest ⟨base, serverName, token'⟩ username q) where
  method := rfl
  url := rfl
  headers := ⟨_, _, _, rfl, rfl⟩
  body := .password rfl [("admin", .bool false), ("deactivated", .bool false)] [] "password"
    (Or.inr rfl) p.reveal q.reveal

/-! ## Answers -/

namespace Http.Script

/-- The same answers are left, and the requests so far are the same but for secrets. -/
structure Alike (s t : Script) : Prop where
  answers : s.answers = t.answers
  received : List.Forall₂ SameButSecrets s.received t.received

/-- Requests that are the same but for secrets get the same answer. -/
theorem send_agrees {a b : Request} (h : SameButSecrets a b) :
    Act.Agrees Alike (send a) (send b) := by
  intro s t hst
  have hanswer : s.answers.headD .unreachable = t.answers.headD .unreachable := by
    rw [hst.answers]
  refine ⟨hanswer, rfl, ?_, ?_⟩
  · exact congrArg List.tail hst.answers
  · exact List.rel_append hst.received (.cons h .nil)

end Http.Script

/-! ## Runs -/

namespace Servers

/-- The two clients with other tokens agree over scripted servers, whatever the passwords are. -/
theorem overTransport_same (k : Keycloak) (session session' : Session) (base : Url)
    (serverName : String) (token token' : Secret) :
    AgreeOn Script.Alike (fun _ _ => True)
      (overTransport k session ⟨base, serverName, token⟩ Script.send)
      (overTransport k session' ⟨base, serverName, token'⟩ Script.send) := by
  have hanswers : k.AnswersAgree Script.Alike (fun _ _ => True) Script.send Script.send session
      session' :=
    { search := fun username => Script.send_agrees (k.searchRequest_same session session' username)
      create := fun username => Script.send_agrees (k.createRequest_same session session' username)
      password := fun id p q _ =>
        Script.send_agrees (k.passwordRequest_same session session' id p q) }
  exact hanswers.servers fun env username p q _ =>
    Synapse.provision_agreeOn
      (Script.send_agrees (Synapse.accountRequest_same base serverName token token' username p q))
      env

/-- Secrets leave no trace but in the requests that carry them.  Two batches for the same users,
with passwords and tokens of their own, end alike over the same answers: in the outcome of every
record, in the counts and with them in the exit code, in all that is reported, and in the lines of
the log with all their fields, whatever libraries say of a body that they cannot read.  They make
the same requests, one by one, but for the token that each shows and the password in the body of a
PUT. -/
theorem run_same_but_secrets (k : Keycloak) (base : Url) (serverName : String) (env : Environment)
    (answers : List Http.Response) (session session' : Session) (token token' : Secret)
    {records records' : List Record}
    (hsame : records.map (·.username) = records'.map (·.username)) :
    let first := (overTransport k session ⟨base, serverName, token⟩ Script.send).run env records
      (.ofAnswers answers)
    let second := (overTransport k session' ⟨base, serverName, token'⟩ Script.send).run env records'
      (.ofAnswers answers)
    first.value = second.value ∧
      first.value.summary.exitCode = second.value.summary.exitCode ∧
      first.reports = second.reports ∧
      (∀ w, first.reports.map (Log.ofEvent w) = second.reports.map (Log.ofEvent w)) ∧
      List.Forall₂ SameButSecrets first.state.received second.state.received := by
  intro first second
  have hrecords : List.Forall₂ (Record.SameUser fun _ _ => True) records records' := by
    have hmapped : List.Forall₂ Eq (records.map (·.username)) (records'.map (·.username)) := by
      rw [List.forall₂_eq_eq_eq]
      exact hsame
    rw [List.forall₂_map_left_iff, List.forall₂_map_right_iff] at hmapped
    exact hmapped.imp fun _ _ husername => ⟨husername, trivial⟩
  obtain ⟨hvalue, hreports, hstate⟩ :=
    (overTransport_same k session session' base serverName token token').run env hrecords
      (.ofAnswers answers) (.ofAnswers answers) ⟨rfl, .nil⟩
  have hcode : first.value.summary.exitCode = second.value.summary.exitCode :=
    congrArg (fun tally => tally.summary.exitCode) hvalue
  exact ⟨hvalue, hcode, hreports, fun w => congrArg (List.map (Log.ofEvent w)) hreports,
    hstate.received⟩

/-- A batch of one record over a server that lists users in a way that cannot be read, makes the
user, sets the password and makes the account. -/
def aliceWith (session : Session) (token password : Secret) : Act.Done Event Script Tally :=
  (overTransport ⟨site, "dev"⟩ session ⟨site, "example.org", token⟩ Script.send).run .dev
    [⟨"alice", password⟩]
    (.ofAnswers
      [⟨200, [], [0x6E]⟩, ⟨201, [("location", "/users/7")], []⟩, ⟨204, [], []⟩, ⟨201, [], []⟩])

theorem run_same_but_secrets_alice :
    [Record.mk "alice" ⟨"Secret1"⟩].map (·.username)
        = [Record.mk "alice" ⟨"hunter2"⟩].map (·.username) ∧
      let first := aliceWith (.ofToken "a") ⟨"s"⟩ ⟨"Secret1"⟩
      let second := aliceWith (.ofToken "b") ⟨"t"⟩ ⟨"hunter2"⟩
      first.value = second.value ∧ first.reports = second.reports ∧
        first.reports.head? = some (.notice (.searchUnreadable "alice" [0x6E])) ∧
        first.state.received.length = 4 ∧
        List.Forall₂ SameButSecrets first.state.received second.state.received := by
  have hsame : [Record.mk "alice" ⟨"Secret1"⟩].map (·.username)
      = [Record.mk "alice" ⟨"hunter2"⟩].map (·.username) := rfl
  obtain ⟨hvalue, _, hreports, _, hreceived⟩ :=
    run_same_but_secrets ⟨site, "dev"⟩ site "example.org" .dev
      [⟨200, [], [0x6E]⟩, ⟨201, [("location", "/users/7")], []⟩, ⟨204, [], []⟩, ⟨201, [], []⟩]
      (.ofToken "a") (.ofToken "b") ⟨"s"⟩ ⟨"t"⟩ hsame
  have hfirst : (aliceWith (.ofToken "a") ⟨"s"⟩ ⟨"Secret1"⟩).reports.head?
      = some (.notice (.searchUnreadable "alice" [0x6E])) := by decide +kernel
  have hrequests : (aliceWith (.ofToken "a") ⟨"s"⟩ ⟨"Secret1"⟩).state.received.length = 4 := by
    decide +kernel
  exact ⟨hsame, hvalue, hreports, hfirst, hrequests, hreceived⟩

end Servers

end Onboarding
