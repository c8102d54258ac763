import Onboarding.Chat.Memory
import Onboarding.Chat.Script
import Onboarding.Identity.Memory
import Onboarding.Proofs.Batch.Calls
import Onboarding.Proofs.Batch.Counts

/-!
# Identity servers beside any chat server

What an identity server is asked in a batch, and what it answers, does not depend on the chat server
beside it: a chat account that is not made takes nothing back and skips no record.

* The course.  `Identity.course` is what a record asks of an identity server alone, and
  `Identity.courseAll` what records in a row ask.
* Apart.  `Apart` says that an identity server has a part of the state for itself.  On every way its
  calls are its course (`Way.course`), and so they are along a batch (`Ways.course`).
* Refusals.  A chat server that always refuses opens no account (`Ways.opensNone`).
* The assembly.  `run_beside` compares the runs beside two chat servers.
-/

namespace Onboarding

/-- Whether a call is one of the identity server. -/
def Call.asksIdentity : Call → Bool
  | provision .. => false
  | _ => true

/-! ## The course -/

namespace Identity

variable {ι : Type} (identity : Identity ι)

/-- The calls that a record makes of an identity server, with its answers, and the state that it is
left in. -/
def course (record : Record) (i : ι) : List Call × ι :=
  let found := identity.find record.username i
  match found.value with
  | some user =>
    let set := identity.setPassword user.id record.password found.state
    ([.find record.username (some user), .setPassword user.id record.password set.value], set.state)
  | none =>
    let made := identity.create record.username found.state
    match made.value with
    | .ok id =>
      let set := identity.setPassword id record.password made.state
      ([.find record.username none, .create record.username (.ok id),
        .setPassword id record.password set.value], set.state)
    | .error cause =>
      ([.find record.username none, .create record.username (.error cause)], made.state)

/-- The calls that records make of it, one record after the other. -/
def courseAll : List Record → ι → List Call × ι
  | [], i => ([], i)
  | record :: rest, i =>
    let first := identity.course record i
    let later := courseAll rest first.2
    (first.1 ++ later.1, later.2)

end Identity

namespace Chat

variable {κ : Type}

/-- A chat server that never makes an account. -/
def Refuses (chat : Chat κ) : Prop :=
  ∀ env username password k, ∃ cause, (chat.provision env username password k).value = .error cause

/-- Where the script is missing, no account is made. -/
theorem Script.server_refuses {root : String} {launcher : Launcher κ}
    (h : ∀ k, launcher.isFile (Repository.script root) k = false) :
    (Script.server root launcher).Refuses := by
  intro env username password k
  refine ⟨.scriptMissing (Repository.script root), ?_⟩
  have hmissing : launcher.isFile (Repository.script root) (Act.get (ε := Notice) k).value = false :=
    h k
  simp [Script.server, hmissing]

end Chat

namespace Servers

variable {σ ι κ κ' : Type}

/-! ## Apart -/

/-- A state shows the part of it that an identity server has. -/
def Shows (view : σ → ι) (s : σ) (i : ι) : Prop :=
  view s = i

/-- An identity server with a part of the state for itself, which `view` shows and which the chat
server leaves as it is. -/
structure Apart (view : σ → ι) (identity : Identity ι) (servers : Servers σ) : Prop where
  find : ∀ username,
    Act.Agrees (Shows view) (servers.identity.find username) (identity.find username)
  create : ∀ username,
    Act.Agrees (Shows view) (servers.identity.create username) (identity.create username)
  setPassword : ∀ id password,
    Act.Agrees (Shows view) (servers.identity.setPassword id password)
      (identity.setPassword id password)
  provision : ∀ env username password s,
    view (servers.chat.provision env username password s).state = view s

/-- What an act does that agrees with one on the part that is shown. -/
theorem eq_of_agrees {view : σ → ι} {ε α : Type} {x : Act ε σ α} {y : Act ε ι α}
    (h : Act.Agrees (Shows view) x y) {s t : σ} {a : α} {reports : List ε}
    (hx : x s = ⟨a, reports, t⟩) : y (view s) = ⟨a, reports, view t⟩ := by
  have hagree := h s (view s) rfl
  rcases hy : y (view s) with ⟨b, reports', i⟩
  rw [hx, hy] at hagree
  obtain ⟨rfl, rfl, rfl⟩ := hagree
  rfl

/-- The identity server's part of the state after a chat account was asked for. -/
theorem Apart.view_of_provision {view : σ → ι} {identity : Identity ι} {servers : Servers σ}
    (h : Apart view identity servers) {env : Environment} {username : String} {password : Secret}
    {s t : σ} {answer : Except ChatError Unit} {notices : List Notice}
    (hprovision : servers.chat.provision env username password s = ⟨answer, notices, t⟩) :
    view t = view s := by
  have hkept := h.provision env username password s
  rwa [hprovision] at hkept

/-- Writing the calls down takes nothing from the identity server. -/
theorem Apart.logged {view : σ → ι} {identity : Identity ι} {servers : Servers σ}
    (h : Apart view identity servers) : Apart (fun s => view s.1) identity servers.logged where
  find username s := h.find username s.1
  create username s := h.create username s.1
  setPassword id password s := h.setPassword id password s.1
  provision env username password s := h.provision env username password s.1

section

variable {view : σ → ι} {identity : Identity ι} {servers : Servers σ} {env : Environment}
  {record : Record} {s t : σ} {calls : List Call} {events : List Event} {outcome : Outcome}

/-- From an id on, the identity server is asked for the password and nothing else. -/
theorem Finished.course (apart : Apart view identity servers) {created : Bool} {id : String}
    (h : Finished servers env record created id s calls events outcome t) :
    let set := identity.setPassword id record.password (view s)
    (calls.filter Call.asksIdentity, view t)
      = ([.setPassword id record.password set.value], set.state) := by
  intro set
  cases h with
  | passwordRefused hset =>
    have hcourse := eq_of_agrees (apart.setPassword _ _) hset
    simp only [set, hcourse]
    rfl
  | accountRefused hset hopen | done hset hopen =>
    have hcourse := eq_of_agrees (apart.setPassword _ _) hset
    have hkept := apart.view_of_provision hopen
    simp only [set, hcourse, hkept]
    rfl

/-- On every way the identity server is asked what its course is. -/
theorem Way.course (apart : Apart view identity servers)
    (h : Way servers env record s calls events outcome t) :
    (calls.filter Call.asksIdentity, view t) = identity.course record (view s) := by
  rcases h with ⟨hdriven⟩
  cases hdriven with
  | notCreated find create =>
    have hfind := eq_of_agrees (apart.find _) find
    have hcreate := eq_of_agrees (apart.create _) create
    simp only [Identity.course, hfind, hcreate]
    rfl
  | identified entry finish =>
    obtain ⟨hcalls, hview⟩ := Prod.mk.inj (finish.course apart)
    rw [List.filter_append, hcalls, hview]
    cases entry with
    | found find =>
      have hfind := eq_of_agrees (apart.find _) find
      simp only [Identity.course, hfind]
      rfl
    | created find create =>
      have hfind := eq_of_agrees (apart.find _) find
      have hcreate := eq_of_agrees (apart.create _) create
      simp only [Identity.course, hfind, hcreate]
      rfl

/-- Along a batch, the identity server is asked what the courses of the records are. -/
theorem Ways.course (apart : Apart view identity servers) {records : List Record}
    {blocks : List (List Call)} {outcomes : List Outcome}
    (h : Ways servers env s records blocks events outcomes t) :
    (blocks.flatten.filter Call.asksIdentity, view t) = identity.courseAll records (view s) := by
  induction h with
  | nil => rfl
  | cons way _ ih =>
    obtain ⟨hcalls, hview⟩ := Prod.mk.inj (way.course apart)
    obtain ⟨hlater, hend⟩ := Prod.mk.inj ih
    rw [List.flatten_cons, List.filter_append, hcalls, hlater, hend, hview]
    rfl

/-- No account is made on a way beside a chat server that refuses. -/
theorem Way.opensNone (hrefuses : servers.chat.Refuses)
    (h : Way servers env record s calls events outcome t) : calls.countP Call.opensAccount = 0 := by
  rcases h with ⟨hdriven⟩
  cases hdriven with
  | notCreated => rfl
  | identified entry finish =>
    rw [List.countP_append, entry.countP.2.2]
    cases finish with
    | passwordRefused => rfl
    | accountRefused => rfl
    | done set provision =>
      obtain ⟨cause, hcause⟩ := hrefuses env record.username record.password _
      rw [provision] at hcause
      cases hcause

theorem Ways.opensNone (hrefuses : servers.chat.Refuses) {records : List Record}
    {blocks : List (List Call)} {outcomes : List Outcome}
    (h : Ways servers env s records blocks events outcomes t) :
    blocks.flatten.countP Call.opensAccount = 0 := by
  induction h with
  | nil => rfl
  | cons way _ ih => rw [List.flatten_cons, List.countP_append, way.opensNone hrefuses, ih]

end

/-! ## Runs -/

/-- An identity server and a chat server with a state for each.  The chat server may look at the
state of the identity server, which it cannot change. -/
def beside (identity : Identity ι) (chat : ι → Chat κ) : Servers (ι × κ) where
  identity := identity.within Prod.fst fun i s => (i, s.2)
  chat := {
    provision env username password s :=
      ((chat s.1).within Prod.snd fun k s => (s.1, k)).provision env username password s
  }

theorem beside_apart (identity : Identity ι) (chat : ι → Chat κ) :
    Apart Prod.fst identity (beside identity chat) where
  find username := by
    rintro s i rfl
    exact ⟨rfl, rfl, rfl⟩
  create username := by
    rintro s i rfl
    exact ⟨rfl, rfl, rfl⟩
  setPassword id password := by
    rintro s i rfl
    exact ⟨rfl, rfl, rfl⟩
  provision env username password s := rfl

/-- What a run asks of its identity server and what it counts of that, and the state that the
identity server is left in. -/
theorem run_course {view : σ → ι} {identity : Identity ι} {servers : Servers σ}
    (apart : Apart view identity servers) (env : Environment) (records : List Record) (s : σ) :
    let run := servers.run env records s
    let course := identity.courseAll records (view s)
    (servers.logged.run env records (s, [])).state.2.filter Call.asksIdentity = course.1 ∧
      view run.state = course.2 ∧
      run.value.summary.usersCreated = course.1.countP Call.createsUser ∧
      run.value.summary.passwordsSet = course.1.countP Call.setsPassword := by
  intro run course
  obtain ⟨hvalue, -, hstate⟩ := (logged_agree servers).run env records (s, []) s rfl
  obtain ⟨blocks, _, hways, hsummary, -, -⟩ := run_ways servers.logged env records (s, [])
  obtain ⟨hcalls, hview⟩ := Prod.mk.inj (hways.course apart.logged)
  have hlog : (servers.logged.run env records (s, [])).state.2 = blocks.flatten := hways.log
  have hcounts : run.value.summary
      = Summary.zero.after blocks.flatten (servers.logged.run env records (s, [])).value.outcomes := by
    rw [← hsummary, hvalue]
  -- A call that is counted here is one of the identity server.
  have husers : blocks.flatten.countP Call.createsUser = course.1.countP Call.createsUser := by
    rw [← hcalls, List.countP_filter]
    refine List.countP_congr fun call _ => ?_
    cases call <;> simp [Call.createsUser, Call.asksIdentity]
  have hpasswords : blocks.flatten.countP Call.setsPassword = course.1.countP Call.setsPassword := by
    rw [← hcalls, List.countP_filter]
    refine List.countP_congr fun call _ => ?_
    cases call <;> simp [Call.setsPassword, Call.asksIdentity]
  rw [Summary.zero_after] at hcounts
  refine ⟨?_, ?_, ?_, ?_⟩
  · rw [hlog, hcalls]
  · have hsame : (servers.logged.run env records (s, [])).state.1 = run.state := hstate
    rw [← hsame, hview]
  · rw [hcounts]
    exact husers
  · rw [hcounts]
    exact hpasswords

/-- A run beside a chat server that refuses makes no account, and all of its records fail. -/
theorem run_refused {servers : Servers σ} (hrefuses : servers.chat.Refuses) (env : Environment)
    (records : List Record) (s : σ) :
    let summary := (servers.run env records s).value.summary
    summary.accountsCreated = 0 ∧ summary.failures = (servers.run env records s).value.processed := by
  intro summary
  obtain ⟨blocks, _, hways, hsummary, hprocessed, -⟩ := run_ways servers env records s
  have hnone := hways.opensNone hrefuses
  have hsum := hways.sum_opensAccount
  have hlength := hways.length_outcomes
  have hcounts : summary = _ := hsummary
  rw [Summary.zero_after] at hcounts
  rw [hcounts, hprocessed]
  refine ⟨hnone, ?_⟩
  show List.countP _ _ = _
  omega

/-- A batch beside two chat servers, whatever each of them answers.  The identity server is asked
the same in the same order, gives the same answers and is left in the same state, and the users
made, the passwords set and the records processed are as many.  A chat server that always refuses
opens no account, so that all records fail, while their passwords are those that any other chat
server would leave, one that never refuses too; a missing script is such a server. -/
theorem run_beside (identity : Identity ι) (chat : ι → Chat κ) (chat' : ι → Chat κ')
    (env : Environment) (records : List Record) (i : ι) (k : κ) (k' : κ') :
    let one := (beside identity chat).run env records (i, k)
    let other := (beside identity chat').run env records (i, k')
    let calls := ((beside identity chat).logged.run env records ((i, k), [])).state.2
    let calls' := ((beside identity chat').logged.run env records ((i, k'), [])).state.2
    calls.filter Call.asksIdentity = calls'.filter Call.asksIdentity ∧
      one.state.1 = other.state.1 ∧
      one.value.summary.usersCreated = other.value.summary.usersCreated ∧
      one.value.summary.passwordsSet = other.value.summary.passwordsSet ∧
      one.value.processed = other.value.processed ∧
      ((∀ users, (chat users).Refuses) →
        one.value.summary.accountsCreated = 0 ∧
          one.value.summary.failures = one.value.processed) ∧
      ∀ root (launcher : Launcher κ),
        (∀ place, launcher.isFile (Repository.script root) place = false) →
          (Chat.Script.server root launcher).Refuses := by
  intro one other calls calls'
  obtain ⟨hcalls, hstate, husers, hpasswords⟩ :=
    run_course (beside_apart identity chat) env records (i, k)
  obtain ⟨hcalls', hstate', husers', hpasswords'⟩ :=
    run_course (beside_apart identity chat') env records (i, k')
  have hprocessed : one.value.processed = records.length := (run_covers _ env records _).1
  have hprocessed' : other.value.processed = records.length := (run_covers _ env records _).1
  refine ⟨hcalls.trans hcalls'.symm, hstate.trans hstate'.symm, husers.trans husers'.symm,
    hpasswords.trans hpasswords'.symm, hprocessed.trans hprocessed'.symm, fun hrefuses => ?_,
    fun root launcher hmissing => Chat.Script.server_refuses hmissing⟩
  have hbeside : (beside identity chat).chat.Refuses := by
    intro env username password s
    exact hrefuses s.1 env username password s.2
  exact run_refused hbeside env records (i, k)

/-- A place without files. -/
def emptyPlace : Launcher Unit where
  isFile _ _ := false
  start _ := pure (.error .notFound)

/-- Two records, the password of the second refused, beside a missing script: what is counted is
seen beside a chat server in memory. -/
theorem run_beside_emptyPlace :
    let script := Chat.Script.server "/repository" emptyPlace
    let users := Identity.Memory.server ⟨[], ["id-bob"]⟩
    let run := (beside users fun _ => script).run .dev [⟨"alice", ⟨"a"⟩⟩, ⟨"bob", ⟨"b"⟩⟩] (⟨[], []⟩, ())
    script.Refuses ∧ run.value.summary = ⟨2, 1, 0, 2⟩ := by
  intro script users run
  obtain ⟨-, -, husers, hpasswords, hprocessed, hrefused, hmissing⟩ :=
    run_beside users (fun _ => script) (fun _ => Chat.Memory.server []) .dev
      [⟨"alice", ⟨"a"⟩⟩, ⟨"bob", ⟨"b"⟩⟩] ⟨[], []⟩ () []
  have hscript : script.Refuses := hmissing "/repository" emptyPlace fun _ => rfl
  obtain ⟨haccounts, hfailures⟩ := hrefused fun _ => hscript
  have hother : ((beside users fun _ => Chat.Memory.server []).run .dev
      [⟨"alice", ⟨"a"⟩⟩, ⟨"bob", ⟨"b"⟩⟩] (⟨[], []⟩, [])).value
        = ⟨⟨2, 1, 1, 1⟩, 2, [.success true, .failed (.setPassword (.passwordRejected 403))]⟩ := by
    decide +kernel
  rw [hother] at husers hpasswords hprocessed
  refine ⟨hscript, ?_⟩
  calc run.value.summary
      = ⟨run.value.summary.usersCreated, run.value.summary.passwordsSet,
          run.value.summary.accountsCreated, run.value.summary.failures⟩ := rfl
    _ = ⟨2, 1, 0, 2⟩ := by rw [husers, hpasswords, haccounts, hfailures, hprocessed]

end Servers

end Onboarding
