import Onboarding.Proofs.Batch.Agreement
import Onboarding.Proofs.Batch.Way

/-!
# The calls of a batch

Which calls a run makes, in which order, and with what.  The servers are arbitrary; `logged` wraps
them so that each call is written into their state together with its answer, and the log after a
run is what the servers were asked.

* The language.  A `Block` is the calls of one record with the end that they lead to, and a `Trace`
  is one block for each record, in order.
* The log.  A logged run differs from the plain run in nothing but the log (`logged_agree`),
  and the log grows by the calls of the ways that the records go (`Ways.log`).
* The assembly.  `run_calls` says that the log of a run grows by a trace.
-/

namespace Onboarding

/-! ## The language of calls -/

/-- The end of a record whose chat account was asked for. -/
def Outcome.ofChat (created : Bool) : Except ChatError Unit → Outcome
  | .ok () => success created
  | .error cause => failed (.provisionChat cause)

/-- The calls of one record, and how it ends with them.  A user is made when none was found, and
only then; the password goes to the id that was found or made; the chat account comes after a
password that was set. -/
inductive Block (env : Environment) (record : Record) : List Call → Outcome → Prop where
  | foundRefused (user : User) (cause : IdentityError) :
      Block env record
        [.find record.username (some user),
          .setPassword user.id record.password (.error cause)]
        (.failed (.setPassword cause))
  | found (user : User) (answer : Except ChatError Unit) :
      Block env record
        [.find record.username (some user),
          .setPassword user.id record.password (.ok ()),
          .provision env record.username record.password answer]
        (.ofChat false answer)
  | notCreated (cause : IdentityError) :
      Block env record
        [.find record.username none,
          .create record.username (.error cause)]
        (.failed (.createUser cause))
  | createdRefused (id : String) (cause : IdentityError) :
      Block env record
        [.find record.username none,
          .create record.username (.ok id),
          .setPassword id record.password (.error cause)]
        (.failed (.setPassword cause))
  | created (id : String) (answer : Except ChatError Unit) :
      Block env record
        [.find record.username none,
          .create record.username (.ok id),
          .setPassword id record.password (.ok ()),
          .provision env record.username record.password answer]
        (.ofChat true answer)

/-- One block for each record, in the order of the records. -/
inductive Trace (env : Environment) : List Record → List Call → List Outcome → Prop where
  | nil : Trace env [] [] []
  | cons {record : Record} {rest : List Record} {calls more : List Call} {outcome : Outcome}
      {outcomes : List Outcome} (block : Block env record calls outcome)
      (trace : Trace env rest more outcomes) :
      Trace env (record :: rest) (calls ++ more) (outcome :: outcomes)

namespace Servers

variable {σ : Type} {env : Environment}

/-! ## The log -/

/-- An act that is written down with its value. -/
def logging {ε α : Type} (call : α → Call) (x : Act ε σ α) : Act ε (σ × List Call) α :=
  fun s => ⟨(x s.1).value, (x s.1).reports, ((x s.1).state, s.2 ++ [call (x s.1).value])⟩

/-- The same servers, with a log of the calls. -/
def logged (servers : Servers σ) : Servers (σ × List Call) where
  identity := {
    find username := logging (.find username) (servers.identity.find username)
    create username := logging (.create username) (servers.identity.create username)
    setPassword id password :=
      logging (.setPassword id password) (servers.identity.setPassword id password)
  }
  chat := {
    provision env username password :=
      logging (.provision env username password) (servers.chat.provision env username password)
  }

/-- A logged server does what the server does, and writes it down. -/
theorem logging_eq {ε α : Type} (call : α → Call) {x : Act ε σ α} {s : σ} {log : List Call}
    {a : α} {reports : List ε} {t : σ × List Call}
    (h : logging call x (s, log) = ⟨a, reports, t⟩) :
    x s = ⟨a, reports, t.1⟩ ∧ t.2 = log ++ [call a] := by
  cases h
  exact ⟨rfl, rfl⟩

/-- A state with a log stands for the state without it. -/
def Forgets (s : σ × List Call) (t : σ) : Prop :=
  s.1 = t

theorem logging_agrees {ε α : Type} (call : α → Call) (x : Act ε σ α) :
    Act.Agrees Forgets (logging call x) x := by
  rintro ⟨s, log⟩ t rfl
  exact ⟨rfl, rfl, rfl⟩

theorem logged_agree (servers : Servers σ) : Agree Forgets servers.logged servers where
  find _ := logging_agrees _ _
  create _ := logging_agrees _ _
  setPassword _ _ := logging_agrees _ _
  provision _ _ _ := logging_agrees _ _

section

variable {servers : Servers σ} {record : Record} {s t : σ × List Call} {calls : List Call}
  {events : List Event} {outcome : Outcome}

theorem Identified.log {created : Bool} {id : String}
    (h : Identified servers.logged record s created id calls events t) : t.2 = s.2 ++ calls := by
  cases h with
  | found find => exact (logging_eq _ find).2
  | created find create =>
    rw [(logging_eq _ create).2, (logging_eq _ find).2, List.append_assoc]
    rfl

theorem Finished.log {created : Bool} {id : String}
    (h : Finished servers.logged env record created id s calls events outcome t) :
    t.2 = s.2 ++ calls := by
  cases h with
  | passwordRefused set => exact (logging_eq _ set).2
  | accountRefused set provision | done set provision =>
    rw [(logging_eq _ provision).2, (logging_eq _ set).2, List.append_assoc]
    rfl

/-- The log grows by the calls of the way. -/
theorem Way.log (h : Way servers.logged env record s calls events outcome t) :
    t.2 = s.2 ++ calls := by
  rcases h with ⟨hdriven⟩
  cases hdriven with
  | notCreated find create =>
    rw [(logging_eq _ create).2, (logging_eq _ find).2, List.append_assoc]
    rfl
  | identified entry finish => rw [finish.log, entry.log, List.append_assoc]

end

theorem Ways.log {servers : Servers σ} {records : List Record} {s t : σ × List Call}
    {blocks : List (List Call)} {events : List Event} {outcomes : List Outcome}
    (h : Ways servers.logged env s records blocks events outcomes t) :
    t.2 = s.2 ++ blocks.flatten := by
  induction h with
  | nil => exact (List.append_nil _).symm
  | cons way _ ih => rw [ih, way.log, List.flatten_cons, List.append_assoc]

/-! ## The trace of a run -/

/-- The calls of a way are a block. -/
theorem Way.block {servers : Servers σ} {record : Record} {s t : σ} {calls : List Call}
    {events : List Event} {outcome : Outcome}
    (h : Way servers env record s calls events outcome t) : Block env record calls outcome := by
  rcases h with ⟨hdriven⟩
  cases hdriven with
  | notCreated => exact .notCreated _
  | identified entry finish =>
    cases entry with
    | found =>
      cases finish with
      | passwordRefused => exact .foundRefused _ _
      | @accountRefused cause => exact .found _ (.error cause)
      | done => exact .found _ (.ok ())
    | created =>
      cases finish with
      | passwordRefused => exact .createdRefused _ _
      | @accountRefused cause => exact .created _ (.error cause)
      | done => exact .created _ (.ok ())

/-- The calls of ways in a row are a trace. -/
theorem Ways.trace {servers : Servers σ} {records : List Record} {s t : σ}
    {blocks : List (List Call)} {events : List Event} {outcomes : List Outcome}
    (h : Ways servers env s records blocks events outcomes t) :
    Trace env records blocks.flatten outcomes := by
  induction h with
  | nil => exact .nil
  | cons way _ ih => exact .cons way.block ih

/-- The calls of a run, whatever the servers answer.  Writing the calls down changes nothing of the
run, and what is written down is one block for each record, in the order of the records, with the
end that the record came to. -/
theorem run_calls (servers : Servers σ) (env : Environment) (records : List Record) (s : σ)
    (log : List Call) :
    let plain := servers.run env records s
    let logged := servers.logged.run env records (s, log)
    (logged.value = plain.value ∧ logged.reports = plain.reports ∧
        logged.state.1 = plain.state) ∧
      ∃ calls, logged.state.2 = log ++ calls ∧
        Trace env records calls plain.value.outcomes := by
  intro plain logged
  have hagree : logged.value = plain.value ∧ logged.reports = plain.reports ∧
      logged.state.1 = plain.state :=
    (logged_agree servers).run env records (s, log) s rfl
  obtain ⟨blocks, _, hways, _⟩ := run_ways servers.logged env records (s, log)
  have htrace : Trace env records blocks.flatten logged.value.outcomes := hways.trace
  rw [hagree.1] at htrace
  exact ⟨hagree, blocks.flatten, hways.log, htrace⟩

end Servers

end Onboarding
