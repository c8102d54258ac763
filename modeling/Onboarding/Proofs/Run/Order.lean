import Onboarding.Http.Script
import Onboarding.Proofs.Batch.Counts
import Onboarding.Proofs.Identity.Token
import Onboarding.Proofs.Run.Checks
import Onboarding.Proofs.Run.Records

/-!
# The order of a run

First the checks, then a token, then the records.

* `execute_of_fault`, `execute_of_passed`: the first fault ends a run before anything is sent, and
  without one the plan is executed.
* `Plan.execute_of_error`, `Plan.execute_of_session`: the plan ends with its first request unless
  that opens a session.
* `run_of_production`, `run_of_fault`, `run_of_refused`, `run_of_unusable`, `run_of_usable`: the
  five ways of a run, of which `run_stops_or_completes` makes one statement about the exit code, the
  output, the log and the traffic.
-/

namespace Onboarding

open CommandLine (Options)
open Http (Turn)

variable {σ : Type}

/-! ## Errors in the log -/

/-- The error lines that reports put in the log. -/
def errorLines (w : Wording) (reports : List RunReport) : List Log.Line :=
  (reports.map (RunReport.line w)).filter (·.level = .error)

theorem errorLines_append (w : Wording) (first second : List RunReport) :
    errorLines w (first ++ second) = errorLines w first ++ errorLines w second := by
  rw [errorLines, List.map_append, List.filter_append]
  rfl

/-- Reports that put no error line in the log. -/
def NoErrors (reports : List RunReport) : Prop :=
  ∀ w, errorLines w reports = []

theorem NoErrors.nil : NoErrors [] :=
  fun _ => rfl

theorem NoErrors.append {first second : List RunReport} (h : NoErrors first)
    (h' : NoErrors second) : NoErrors (first ++ second) := by
  intro w
  rw [errorLines_append, h w, h' w, List.append_nil]

theorem noErrors_ofChat (chatPlan : ChatPlan) : NoErrors [.ofChat chatPlan] := by
  intro w
  cases chatPlan with
  | script root => rfl
  | synapse baseUrl serverName token => rfl

/-- No notice of a client is an error. -/
theorem noErrors_notices (notices : List Notice) :
    NoErrors (notices.map (.event ∘ .notice)) := by
  induction notices with
  | nil => exact .nil
  | cons notice rest ih =>
    have hline : NoErrors [.event (.notice notice)] := by
      intro w
      cases notice with
      | unanswered method url fault => rfl
      | tokenUnreadable body => rfl
      | searchRefused username status => rfl
      | searchUnreadable username body => rfl
      | userExists username => rfl
    exact hline.append ih

/-! ## The plan -/

section

variable {plan : Plan} {keycloak : Keycloak} (chat : Chat σ) {send : Http.Transport σ} {s t : σ}
  {notices : List Notice}

/-- Without a session nothing follows the request for a token. -/
theorem Plan.execute_of_error {e : RunError}
    (h : keycloak.authenticate send plan.credentials s = ⟨.error e, notices, t⟩) :
    ∃ reports, plan.execute keycloak chat send s = ⟨.error e, reports, t⟩ ∧ NoErrors reports := by
  have hstarting : NoErrors
      [.starting plan.env keycloak.realm plan.credentials.grantType plan.records.length] :=
    fun _ => rfl
  refine ⟨_, ?_, hstarting.append (noErrors_notices notices)⟩
  simp [execute, h]

/-- With a session the records follow. -/
theorem Plan.execute_of_session {session : Keycloak.Session}
    (h : keycloak.authenticate send plan.credentials s = ⟨.ok session, notices, t⟩) :
    let r := Servers.run ⟨keycloak.server send session, chat⟩ plan.env plan.records t
    (plan.execute keycloak chat send s).value = .ok r.value ∧
      (plan.execute keycloak chat send s).state = r.state := by
  simp [execute, h]

end

namespace CommandLine.Options

variable {o : Options} {h : Host} {launcher : Launcher σ} {send : Http.Transport σ} {s : σ}

/-! ## The checks -/

theorem server_of_fault {chatPlan : ChatPlan} {e : RunError}
    (hfault : chatPlan.fault? = some e) :
    chatPlan.server launcher send = .error e := by
  cases chatPlan with
  | script root => cases hfault
  | synapse baseUrl serverName token =>
    rw [ChatPlan.server, errorOf?_eq_some.mp hfault]
    rfl

theorem server_of_no_fault {chatPlan : ChatPlan} (hnone : chatPlan.fault? = none)
    (launcher : Launcher σ) (send : Http.Transport σ) :
    ∃ chat, chatPlan.server launcher send = .ok chat := by
  cases chatPlan with
  | script root => exact ⟨_, rfl⟩
  | synapse baseUrl serverName token =>
    obtain ⟨synapse, hmake⟩ := errorOf?_eq_none.mp hnone
    refine ⟨synapse.server send, ?_⟩
    rw [ChatPlan.server, hmake]
    rfl

theorem execute_of_production (henv : o.env = .prod) :
    o.execute h launcher send s = ⟨.error .productionRefused, [], s⟩ := by
  simp [execute, plan_of_production henv]

/-- The first fault is the error of the run, and nothing else is done. -/
theorem execute_of_fault (henv : o.env ≠ .prod) {e : RunError}
    (hfault : o.firstFault? h = some e) :
    ∃ reports, o.execute h launcher send s = ⟨.error e, reports, s⟩ ∧ NoErrors reports := by
  rcases plan_cases (h := h) henv with ⟨cause, hplan, hfirst⟩ | ⟨plan, hplanned, hlast⟩
  · rw [hfault] at hfirst
    cases hfirst
    exact ⟨[], by simp [execute, hplan], .nil⟩
  · have hplan := plan_of_planned henv hplanned
    rw [hlast] at hfault
    cases hchat : o.chatPlan h plan.settings with
    | error cause =>
      obtain rfl : cause = e := by simpa [hchat] using hfault
      exact ⟨[], by simp [execute, hplan, hchat], .nil⟩
    | ok chatPlan =>
      refine ⟨[.ofChat chatPlan], ?_, noErrors_ofChat chatPlan⟩
      cases hserver : chatPlan.fault? with
      | some cause =>
        obtain rfl : cause = e := by simpa [hchat, hserver] using hfault
        simp [execute, hplan, hchat, server_of_fault hserver]
      | none =>
        obtain ⟨chat, hok⟩ := server_of_no_fault hserver launcher send
        have hmake : Keycloak.make plan.keycloakUrl plan.realm = .error e := by
          simpa [hchat, hserver, errorOf?_eq_some] using hfault
        simp [execute, hplan, hchat, hok, hmake]

/-- When all checks pass, the plan is executed. -/
theorem execute_of_passed (henv : o.env ≠ .prod) {plan : Plan} {chatPlan : ChatPlan}
    {keycloak : Keycloak} (hpassed : Passed o h plan chatPlan keycloak)
    (launcher : Launcher σ) (send : Http.Transport σ) :
    ∃ chat, chatPlan.server launcher send = .ok chat ∧
      o.execute h launcher send
        = (Act.report (.ofChat chatPlan) >>= fun _ => plan.execute keycloak chat send) := by
  obtain ⟨chat, hok⟩ := server_of_no_fault hpassed.chatServer launcher send
  refine ⟨chat, hok, ?_⟩
  simp [execute, plan_of_planned henv hpassed.toPlanned, hpassed.chat, hok,
    hpassed.keycloakServer]

/-! ## Runs -/

/-- An error ended the run: with this exit code, without output, and with one error line in the
log, about this error, however libraries word it. -/
structure StoppedBy (r : Act.Done RunReport σ Ending) (code : Nat) (e : RunError) : Prop where
  value : r.value = ⟨code, ""⟩
  errors : ∀ w, errorLines w r.reports = [⟨.error, e.message w, []⟩]

/-- An error of the execution ends the run. -/
theorem run_of_error {e : RunError} {reports : List RunReport} {t : σ}
    (hexecute : o.execute h launcher send s = ⟨.error e, reports, t⟩)
    (hreports : NoErrors reports) :
    StoppedBy (o.run h launcher send s) e.exitCode e ∧ (o.run h launcher send s).state = t := by
  have hrun : (o.run h launcher send s).reports = reports ++ [.stopped e] := by
    simp [run, hexecute]
  refine ⟨⟨?_, fun w => ?_⟩, ?_⟩
  · simp [run, hexecute]
  · rw [hrun, errorLines_append, hreports w]
    rfl
  · simp [run, hexecute]

variable (launcher send s)

/-- A run for production is refused. -/
theorem run_of_production (henv : o.env = .prod) :
    StoppedBy (o.run h launcher send s) 1 .productionRefused ∧
      (o.run h launcher send s).state = s :=
  run_of_error (execute_of_production henv) .nil

/-- The first fault ends the run. -/
theorem run_of_fault (henv : o.env ≠ .prod) {e : RunError} (hfault : o.firstFault? h = some e) :
    StoppedBy (o.run h launcher send s) 2 e ∧ (o.run h launcher send s).state = s := by
  obtain ⟨reports, hexecute, hreports⟩ := execute_of_fault henv hfault
  rw [← exitCode_of_firstFault hfault]
  exact run_of_error hexecute hreports

section

variable {plan : Plan} {chatPlan : ChatPlan} {keycloak : Keycloak}
  (henv : o.env ≠ .prod) (hpassed : Passed o h plan chatPlan keycloak)

include henv hpassed

/-- Without a session the run ends with the request for a token. -/
theorem run_of_no_session {e : RunError} {notices : List Notice} {t : σ}
    (hanswer : keycloak.authenticate send plan.credentials s = ⟨.error e, notices, t⟩) :
    StoppedBy (o.run h launcher send s) e.exitCode e ∧ (o.run h launcher send s).state = t := by
  obtain ⟨chat, _, hexecute⟩ := execute_of_passed henv hpassed launcher send
  obtain ⟨reports, hplan, hreports⟩ := Plan.execute_of_error chat hanswer
  have hall : o.execute h launcher send s = ⟨.error e, [.ofChat chatPlan] ++ reports, t⟩ := by
    simp [hexecute, hplan]
  exact run_of_error hall ((noErrors_ofChat chatPlan).append hreports)

/-- A status other than 200 ends the run with code 3. -/
theorem run_of_refused
    (hstatus : (send (keycloak.postToken plan.credentials) s).value.status ≠ 200) :
    let answer := send (keycloak.postToken plan.credentials) s
    StoppedBy (o.run h launcher send s) 3 (.authenticationFailed answer.value.status
        (answer.value.preview Keycloak.refusalPreview)) ∧
      (o.run h launcher send s).state = answer.state := by
  rw [← Keycloak.tokenRequest_eq] at hstatus ⊢
  exact run_of_no_session launcher send s henv hpassed
    (keycloak.authenticate_of_refused send plan.credentials s hstatus)

/-- Status 200 without a usable token ends the run with code 4. -/
theorem run_of_unusable
    (hstatus : (send (keycloak.postToken plan.credentials) s).value.status = 200)
    (htoken : Keycloak.usableToken? (send (keycloak.postToken plan.credentials) s).value.body
      = none) :
    StoppedBy (o.run h launcher send s) 4 .emptyToken ∧
      (o.run h launcher send s).state
        = (send (keycloak.postToken plan.credentials) s).state := by
  rw [← Keycloak.tokenRequest_eq] at hstatus htoken ⊢
  obtain ⟨notices, hanswer⟩ :=
    keycloak.authenticate_of_unusable send plan.credentials s hstatus htoken
  exact run_of_no_session launcher send s henv hpassed hanswer

/-- With a session the records follow, and the counts decide the exit code and the output. -/
theorem run_of_session {session : Keycloak.Session} {notices : List Notice} {t : σ}
    (hanswer : keycloak.authenticate send plan.credentials s = ⟨.ok session, notices, t⟩) :
    ∃ chat, chatPlan.server launcher send = .ok chat ∧
      let batch := Servers.run ⟨keycloak.server send session, chat⟩ plan.env plan.records t
      (o.run h launcher send s).value
          = ⟨batch.value.summary.exitCode, o.format.render batch.value.summary⟩ ∧
        (o.run h launcher send s).state = batch.state := by
  obtain ⟨chat, hserver, hexecute⟩ := execute_of_passed henv hpassed launcher send
  obtain ⟨hvalue, hstate⟩ := Plan.execute_of_session chat hanswer
  refine ⟨chat, hserver, ?_, ?_⟩
  · simp [run, hexecute, hvalue]
  · simp [run, hexecute, hvalue, hstate]

/-- A usable token opens a session for the batch.  Watched, the run does the same, and its traffic
is the request for the token and what the records take. -/
theorem run_of_usable {token : String}
    (hstatus : (send (keycloak.postToken plan.credentials) s).value.status = 200)
    (htoken : Keycloak.usableToken? (send (keycloak.postToken plan.credentials) s).value.body
      = some token) :
    let answer := send (keycloak.postToken plan.credentials) s
    ∃ chat session turns started, chatPlan.server launcher send = .ok chat ∧
      session.token.reveal = token ∧
      let batch := Servers.run ⟨keycloak.server send session, chat⟩ plan.env plan.records
        answer.state
      Means.HandlesAll ⟨keycloak, session, chatPlan, plan.env, launcher, send⟩ answer.state
        plan.records turns started batch.value.outcomes batch.state ∧
      (o.run h launcher.observed send.observed (.quiet s)).state
        = ⟨batch.state, ⟨keycloak.postToken plan.credentials, answer.value⟩ :: turns, started⟩ ∧
      (o.run h launcher send s).value
        = ⟨batch.value.summary.exitCode, o.format.render batch.value.summary⟩ ∧
      (o.run h launcher send s).state = batch.state := by
  rw [← Keycloak.tokenRequest_eq] at hstatus htoken ⊢
  intro answer
  obtain ⟨expiresIn, hanswer⟩ :=
    keycloak.authenticate_of_usable send plan.credentials s hstatus htoken
  obtain ⟨seconds, hwatched⟩ := keycloak.authenticate_of_usable send.observed plan.credentials
    (.quiet s) hstatus htoken
  -- The watched answer is the plain one, so both sessions are the same.
  obtain rfl : seconds = expiresIn := by
    have hsame := (keycloak.authenticate_agrees send.observed_agrees plan.credentials
      (.quiet s) s rfl).1
    rw [hanswer, hwatched] at hsame
    simpa using hsame
  obtain ⟨chat, hserver, hvalue, hstate⟩ := run_of_session launcher send s henv hpassed hanswer
  obtain ⟨watching, hwatching, -, hseen⟩ :=
    run_of_session launcher.observed send.observed (.quiet s) henv hpassed hwatched
  obtain ⟨turns, started, hall, htraffic⟩ :=
    Means.run_handles ⟨keycloak, ⟨⟨token⟩, seconds⟩, chatPlan, plan.env, launcher, send⟩ hserver
      hwatching plan.records
      ⟨answer.state, [⟨keycloak.tokenRequest plan.credentials, answer.value⟩], []⟩
  exact ⟨chat, ⟨⟨token⟩, seconds⟩, turns, started, hserver, rfl, hall, hseen.trans htraffic,
    hvalue, hstate⟩

end

/-- The exit code of a run that did its records. -/
theorem exitCode_eq (summary : Summary) :
    summary.exitCode = if 0 < summary.failures then 5 else 0 := by
  rw [Summary.exitCode]
  split <;> split <;> omega

/-- Options of a run with one record and Synapse, and the host of such a run. -/
def oneRecord : Options :=
  ⟨.dev, "/users.csv", some "http://h", some "dev", some "admin", some "pw", none, none, none, none,
    some .synapse, some "http://h", some "example.org", some "token", none, .text, false, false⟩

def oneFile : Host where
  bindings := []
  directory := .ok "/"
  executable := .ok "/bin/onboarding"
  accountHome := some "/root"
  has path := path = "/users.csv"
  read path := if path = "/users.csv" then .ok [97, 44, 98, 10] else .error .notFound

/-- A launcher without programs. -/
def noPrograms : Launcher σ where
  isFile _ _ := false
  start _ := pure (.error .notFound)

/-- A server that grants a token, lists no user, makes one, sets its password, and makes an account.
-/
def granting : Http.Script :=
  .ofAnswers [⟨200, [], Utf8.encode "\x7b\"access_token\":\"tok\"\x7d".toList⟩,
    ⟨200, [], Utf8.encode "[]".toList⟩, ⟨201, [("location", "/users/7")], []⟩, ⟨204, [], []⟩,
    ⟨201, [], []⟩]

end CommandLine.Options

end Onboarding
