import Onboarding.Proofs.Batch.Conversation
import Onboarding.Proofs.Run.Traffic

/-!
# The records of a run in its traffic

What a run sends and starts for its records, one after the other, with either chat server.

* One record.  `Handles` is what is done for a record: a talk with Keycloak and, when that set the
  password, what the chat server takes for the account (`Opens`).  Every way of a record is one of
  these (`handles_of_way`).
* The batch.  `HandlesAll` is the same for records in a row, by induction (`handlesAll_of_ways`).
* Traffic.  `HandlesAll.observed`: what is done over an observed world is what the traffic has more.
* The assembly.  `run_handles` is about a batch and about the same batch when it is watched.
-/

namespace Onboarding

open Http (Response Sends Turn)
open Keycloak (Session Talk)
open Servers (accountGood passwordGood)

variable {σ : Type}

/-- The means by which the records of a run are done. -/
structure Means (σ : Type) where
  keycloak : Keycloak
  session : Session
  chat : ChatPlan
  env : Environment
  launcher : Launcher σ
  send : Http.Transport σ

namespace Means

/-- The servers of a run, with a chat server. -/
def servers (m : Means σ) (chat : Chat σ) : Servers σ :=
  ⟨m.keycloak.server m.send m.session, chat⟩

/-- The same means over an observed world. -/
def observed (m : Means σ) : Means (Traffic σ) :=
  { m with launcher := m.launcher.observed, send := m.send.observed }

/-! ## One record -/

/-- What the chat server takes to make the account of a record, and its answer.  The script is
started once, when it is there; Synapse gets one request. -/
inductive Opens (m : Means σ) (record : Record) (s : σ) :
    List Turn → List Start → Except ChatError Unit → σ → Prop where
  | scriptMissing {root : String} (chat : m.chat = .script root)
      (missing : m.launcher.isFile (Path.join root "create-matrix-user.sh") s = false) :
      Opens m record s [] []
        (.error (.scriptMissing (Path.join root "create-matrix-user.sh"))) s
  | scriptRun {root : String} {result : Except SystemError Finished} {notices : List Notice} {t : σ}
      (chat : m.chat = .script root)
      (found : m.launcher.isFile (Path.join root "create-matrix-user.sh") s = true)
      (start : m.launcher.start (Chat.Script.command root m.env record.username record.password) s
        = ⟨result, notices, t⟩) :
      Opens m record s []
        [⟨Chat.Script.command root m.env record.username record.password, result⟩]
        (Chat.Script.result result) t
  | request {baseUrl serverName : String} {token : Secret} {c : Synapse} {answer : Response}
      {account : Except ChatError Unit} {t : σ} (chat : m.chat = .synapse baseUrl serverName token)
      (make : Synapse.make baseUrl serverName token = .ok c)
      (sends : Sends m.send s [⟨c.putAccount record.username record.password, answer⟩] t)
      (made : account = .ok () ↔ accountGood answer.status) :
      Opens m record s [⟨c.putAccount record.username record.password, answer⟩] [] account t

/-- What is done for a record, and how the record ends: at the user when the talk with Keycloak
gives no id, at the password when its answer is not good, and otherwise as the chat server has it.
-/
inductive Handles (m : Means σ) (record : Record) (s : σ) :
    List Turn → List Start → Outcome → σ → Prop where
  | notIdentified {talk : Talk} {cause : IdentityError} {t : σ}
      (sends : Sends m.send s (talk.turns m.keycloak m.session record) t) (id : talk.id? = none) :
      Handles m record s (talk.turns m.keycloak m.session record) [] (.failed (.createUser cause)) t
  | passwordRefused {talk : Talk} {cause : IdentityError} {t : σ}
      (sends : Sends m.send s (talk.turns m.keycloak m.session record) t)
      (password : ∃ answer ∈ talk.password, ¬ passwordGood answer.status) :
      Handles m record s (talk.turns m.keycloak m.session record) []
        (.failed (.setPassword cause)) t
  | passwordSet {talk : Talk} {turns : List Turn} {started : List Start}
      {account : Except ChatError Unit} {t u : σ}
      (sends : Sends m.send s (talk.turns m.keycloak m.session record) t)
      (password : ∃ answer ∈ talk.password, passwordGood answer.status)
      (opens : Opens m record t turns started account u) :
      Handles m record s (talk.turns m.keycloak m.session record ++ turns) started
        (.ofChat talk.created.isSome account) u

/-- What is done for records in a row, each from the state that the one before it left. -/
inductive HandlesAll (m : Means σ) :
    σ → List Record → List Turn → List Start → List Outcome → σ → Prop where
  | nil (s : σ) : HandlesAll m s [] [] [] [] s
  | cons {record : Record} {rest : List Record} {turns more : List Turn}
      {started later : List Start} {outcome : Outcome} {outcomes : List Outcome} {s t u : σ}
      (handles : Handles m record s turns started outcome t)
      (all : HandlesAll m t rest more later outcomes u) :
      HandlesAll m s (record :: rest) (turns ++ more) (started ++ later) (outcome :: outcomes) u

section

variable {m : Means σ} {chat : Chat σ} {record : Record} {s t : σ}

/-- The chat server of a plan takes what is said above. -/
theorem opens_of_provision (hchat : m.chat.server m.launcher m.send = .ok chat)
    {account : Except ChatError Unit} {notices : List Notice}
    (h : chat.provision m.env record.username record.password s = ⟨account, notices, t⟩) :
    ∃ turns started, Opens m record s turns started account t := by
  cases hplan : m.chat with
  | script root =>
    rw [hplan] at hchat
    obtain rfl : Chat.Script.server root m.launcher = chat := Except.ok.inj hchat
    cases hfile : m.launcher.isFile (Repository.script root) s with
    | false =>
      simp only [Chat.Script.server, Act.bind_apply, Act.get, hfile, Bool.false_eq_true, if_false,
        Act.pure_apply] at h
      cases h
      exact ⟨_, _, .scriptMissing hplan hfile⟩
    | true =>
      rcases hstart : m.launcher.start
        (Chat.Script.invocation root m.env record.username record.password) s with
        ⟨result, reports, u⟩
      simp only [Chat.Script.server, Act.bind_apply, Act.get, hfile, if_true, Act.pure_apply,
        hstart] at h
      rw [Chat.Script.invocation_eq] at hstart
      cases h
      exact ⟨_, _, .scriptRun hplan hfile hstart⟩
  | synapse baseUrl serverName token =>
    rw [hplan, ChatPlan.server] at hchat
    cases hmake : Synapse.make baseUrl serverName token with
    | error e =>
      rw [hmake] at hchat
      cases hchat
    | ok c =>
      rw [hmake] at hchat
      obtain rfl : c.server m.send = chat := Except.ok.inj hchat
      obtain ⟨answer, hmade, hsends⟩ := Synapse.provision_turn h
      exact ⟨_, _, .request hplan hmake hsends hmade⟩

/-- Every way of a record does what is said above. -/
theorem handles_of_way (hchat : m.chat.server m.launcher m.send = .ok chat) {calls : List Call}
    {events : List Event} {outcome : Outcome}
    (h : Servers.Way (m.servers chat) m.env record s calls events outcome t) :
    ∃ turns started, Handles m record s turns started outcome t := by
  obtain ⟨talk, u, hsends, hends, _⟩ := h.talk
  cases hends with
  | notIdentified hid => exact ⟨_, _, .notIdentified hsends hid⟩
  | passwordRefused hrefused => exact ⟨_, _, .passwordRefused hsends hrefused⟩
  | passwordSet hset provision =>
    obtain ⟨turns, started, hopens⟩ := opens_of_provision hchat provision
    exact ⟨_, _, .passwordSet hsends hset hopens⟩

/-! ## The batch -/

/-- Records in a row are handled one after the other. -/
theorem handlesAll_of_ways (hchat : m.chat.server m.launcher m.send = .ok chat)
    {records : List Record} {blocks : List (List Call)} {events : List Event}
    {outcomes : List Outcome}
    (h : Servers.Ways (m.servers chat) m.env s records blocks events outcomes t) :
    ∃ turns started, HandlesAll m s records turns started outcomes t := by
  induction h with
  | nil s => exact ⟨[], [], .nil s⟩
  | cons way _ ih =>
    obtain ⟨turns, started, hfirst⟩ := handles_of_way hchat way
    obtain ⟨more, later, hrest⟩ := ih
    exact ⟨turns ++ more, started ++ later, .cons hfirst hrest⟩

end

/-! ## Traffic -/

section

variable {m : Means σ} {record : Record} {t u : Traffic σ} {turns : List Turn}
  {started : List Start}

theorem Opens.observed {account : Except ChatError Unit}
    (h : Opens m.observed record t turns started account u) :
    Opens m record t.world turns started account u.world ∧ u.turns = t.turns ++ turns ∧
      u.started = t.started ++ started := by
  cases h with
  | scriptMissing chat missing =>
    exact ⟨.scriptMissing chat missing, (List.append_nil _).symm, (List.append_nil _).symm⟩
  | @scriptRun root _ notices _ chat found start =>
    obtain ⟨rfl, rfl, rfl⟩ := Act.Done.mk.inj start
    exact ⟨.scriptRun chat found rfl, (List.append_nil _).symm, rfl⟩
  | request chat make sends made =>
    obtain ⟨hsends, hturns, hstarted⟩ := sends.observed
    exact ⟨.request chat make hsends made, hturns, by rw [hstarted, List.append_nil]⟩

theorem Handles.observed {outcome : Outcome}
    (h : Handles m.observed record t turns started outcome u) :
    Handles m record t.world turns started outcome u.world ∧ u.turns = t.turns ++ turns ∧
      u.started = t.started ++ started := by
  cases h with
  | notIdentified sends id =>
    obtain ⟨hsends, hturns, hstarted⟩ := sends.observed
    exact ⟨.notIdentified hsends id, hturns, by rw [hstarted, List.append_nil]⟩
  | passwordRefused sends password =>
    obtain ⟨hsends, hturns, hstarted⟩ := sends.observed
    exact ⟨.passwordRefused hsends password, hturns, by rw [hstarted, List.append_nil]⟩
  | passwordSet sends password opens =>
    obtain ⟨hsends, hturns, hstarted⟩ := sends.observed
    obtain ⟨hopens, hmore, hlater⟩ := opens.observed
    refine ⟨.passwordSet hsends password hopens, ?_, ?_⟩
    · rw [hmore, hturns, List.append_assoc]
    · rw [hlater, hstarted]

/-- What is done for records over an observed world is what the traffic has more. -/
theorem HandlesAll.observed {records : List Record} {outcomes : List Outcome}
    (h : HandlesAll m.observed t records turns started outcomes u) :
    HandlesAll m t.world records turns started outcomes u.world ∧ u.turns = t.turns ++ turns ∧
      u.started = t.started ++ started := by
  induction h with
  | nil t => exact ⟨.nil t.world, (List.append_nil _).symm, (List.append_nil _).symm⟩
  | cons handles _ ih =>
    obtain ⟨hfirst, hturns, hstarted⟩ := handles.observed
    obtain ⟨hrest, hmore, hlater⟩ := ih
    refine ⟨.cons hfirst hrest, ?_, ?_⟩
    · rw [hmore, hturns, List.append_assoc]
    · rw [hlater, hstarted, List.append_assoc]

end

/-! ## Runs -/

/-- A watched batch comes to the same as the plain one. -/
theorem run_observed (m : Means σ) {chat : Chat σ} {watching : Chat (Traffic σ)}
    (hchat : m.chat.server m.launcher m.send = .ok chat)
    (hwatching : m.chat.server m.launcher.observed m.send.observed = .ok watching)
    (records : List Record) (t : Traffic σ) :
    ((m.observed.servers watching).run m.env records t).value
        = ((m.servers chat).run m.env records t.world).value ∧
      ((m.observed.servers watching).run m.env records t).state.world
        = ((m.servers chat).run m.env records t.world).state := by
  have hagree : Servers.Agree Traffic.Hides (m.observed.servers watching) (m.servers chat) := by
    rcases m.chat.server_agrees m.launcher.observed_agree m.send.observed_agrees with
      ⟨e, he, _⟩ | ⟨a, b, ha, hb, hprovision⟩
    · rw [hwatching] at he
      cases he
    · rw [hwatching] at ha
      rw [hchat] at hb
      cases ha
      cases hb
      exact m.keycloak.servers_agree m.send.observed_agrees m.session hprovision
  obtain ⟨hvalue, _, hstate⟩ := hagree.run m.env records t t.world rfl
  exact ⟨hvalue, hstate⟩

/-- The batch of a run.  Watched or not, it handles all records, and what it sends and starts for
them is what it adds to the traffic. -/
theorem run_handles (m : Means σ) {chat : Chat σ} {watching : Chat (Traffic σ)}
    (hchat : m.chat.server m.launcher m.send = .ok chat)
    (hwatching : m.chat.server m.launcher.observed m.send.observed = .ok watching)
    (records : List Record) (t : Traffic σ) :
    let batch := (m.servers chat).run m.env records t.world
    ∃ turns started, HandlesAll m t.world records turns started batch.value.outcomes batch.state ∧
      ((m.observed.servers watching).run m.env records t).state
        = ⟨batch.state, t.turns ++ turns, t.started ++ started⟩ := by
  intro batch
  obtain ⟨hvalue, hworld⟩ := m.run_observed hchat hwatching records t
  obtain ⟨_, _, hways, _⟩ := Servers.run_ways (m.observed.servers watching) m.env records t
  obtain ⟨turns, started, hall⟩ := handlesAll_of_ways (m := m.observed) hwatching hways
  obtain ⟨hplain, hturns, hstarted⟩ := hall.observed
  rw [hvalue, hworld] at hplain
  refine ⟨turns, started, hplain, ?_⟩
  rw [← hturns, ← hstarted, ← hworld]

end Means

end Onboarding
