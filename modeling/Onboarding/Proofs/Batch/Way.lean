import Onboarding.Batch

/-!
# The way of a record

What `Servers.process` can do with one record, said once.  A `Way` names the calls that the
servers were asked, with their answers, the events that were reported, how the record ended, and
the state of the servers afterwards.  The servers are arbitrary: any state, any answer to any call.

There are three groups.

* The ways themselves.  `Identified` is the part up to an id, `Finished` the part from an id to the
  end, and `Way` joins the two.
* The counts.  `Summary.after` adds the calls that succeeded and the records that failed.
* The inversion lemmas.  `process_way` says that a record goes one of the ways and that the counts
  grow by its calls; `processAll_ways` carries this over a list of records, and `run_ways` reads it
  off a whole run.
-/

namespace Onboarding

/-! ## Calls -/

/-- A call of a server with its answer. -/
inductive Call where
  | find (username : String) (answer : Option User)
  | create (username : String) (answer : Except IdentityError String)
  | setPassword (id : String) (password : Secret) (answer : Except IdentityError Unit)
  | provision (env : Environment) (username : String) (password : Secret)
      (answer : Except ChatError Unit)

namespace Call

/-- Whether a call made a user. -/
def createsUser : Call → Bool
  | create _ (.ok _) => true
  | _ => false

/-- Whether a call set a password. -/
def setsPassword : Call → Bool
  | setPassword _ _ (.ok _) => true
  | _ => false

/-- Whether a call made a chat account. -/
def opensAccount : Call → Bool
  | provision _ _ _ (.ok _) => true
  | _ => false

end Call

/-- Counts after some calls and the ends of some records: each count grows by the calls that did
what it counts, and the failures by the records that failed. -/
def Summary.after (s : Summary) (calls : List Call) (outcomes : List Outcome) : Summary where
  usersCreated := s.usersCreated + calls.countP Call.createsUser
  passwordsSet := s.passwordsSet + calls.countP Call.setsPassword
  accountsCreated := s.accountsCreated + calls.countP Call.opensAccount
  failures := s.failures + outcomes.countP (!·.isSuccess)

theorem Summary.after_after (s : Summary) (calls more : List Call)
    (outcomes later : List Outcome) :
    (s.after calls outcomes).after more later = s.after (calls ++ more) (outcomes ++ later) := by
  simp only [Summary.after, List.countP_append, Nat.add_assoc]

/-- Counts from nothing are those of the calls and the ends. -/
theorem Summary.zero_after (calls : List Call) (outcomes : List Outcome) :
    Summary.zero.after calls outcomes
      = ⟨calls.countP Call.createsUser, calls.countP Call.setsPassword,
        calls.countP Call.opensAccount, outcomes.countP (!·.isSuccess)⟩ := by
  simp only [Summary.after, Summary.zero, Nat.zero_add]

/-- The tally after records that made `calls` and ended with `outcomes`. -/
def Tally.after (tally : Tally) (calls : List Call) (outcomes : List Outcome) : Tally :=
  ⟨tally.summary.after calls outcomes, tally.processed + outcomes.length,
    tally.outcomes ++ outcomes⟩

theorem Tally.add_after (tally : Tally) (calls more : List Call) (outcome : Outcome)
    (outcomes : List Outcome) :
    (tally.add outcome (tally.summary.after calls [outcome])).after more outcomes
      = tally.after (calls ++ more) (outcome :: outcomes) := by
  simp only [Tally.after, Tally.add, Summary.after_after, List.length_cons, List.append_assoc,
    List.singleton_append, Nat.add_assoc, Nat.add_comm 1]

/-- What is reported about a record once it has ended. -/
def Outcome.events (username : String) : Outcome → List Event
  | success _ => []
  | failed failure => [.recordFailed username failure]

namespace Servers

variable {σ : Type} {servers : Servers σ} {env : Environment} {record : Record}

/-! ## Ways -/

/-- A record gets an id: its user is found, or made when there is none. -/
inductive Identified (servers : Servers σ) (record : Record) (s : σ) :
    Bool → String → List Call → List Event → σ → Prop where
  | found {user : User} {notices : List Notice} {t : σ}
      (find : servers.identity.find record.username s = ⟨some user, notices, t⟩) :
      Identified servers record s false user.id [.find record.username (some user)]
        (notices.map .notice) t
  | created {id : String} {notices more : List Notice} {t u : σ}
      (find : servers.identity.find record.username s = ⟨none, notices, t⟩)
      (create : servers.identity.create record.username t = ⟨.ok id, more, u⟩) :
      Identified servers record s true id
        [.find record.username none, .create record.username (.ok id)]
        (notices.map .notice ++ more.map .notice ++ [.userCreated record.username]) u

/-- A record with an id comes to its end: the password, and then the chat account. -/
inductive Finished (servers : Servers σ) (env : Environment) (record : Record) (created : Bool)
    (id : String) (s : σ) : List Call → List Event → Outcome → σ → Prop where
  | passwordRefused {cause : IdentityError} {notices : List Notice} {t : σ}
      (set : servers.identity.setPassword id record.password s = ⟨.error cause, notices, t⟩) :
      Finished servers env record created id s [.setPassword id record.password (.error cause)]
        (notices.map .notice) (.failed (.setPassword cause)) t
  | accountRefused {cause : ChatError} {notices more : List Notice} {t u : σ}
      (set : servers.identity.setPassword id record.password s = ⟨.ok (), notices, t⟩)
      (provision : servers.chat.provision env record.username record.password t
        = ⟨.error cause, more, u⟩) :
      Finished servers env record created id s
        [.setPassword id record.password (.ok ()),
          .provision env record.username record.password (.error cause)]
        (notices.map .notice ++ more.map .notice) (.failed (.provisionChat cause)) u
  | done {notices more : List Notice} {t u : σ}
      (set : servers.identity.setPassword id record.password s = ⟨.ok (), notices, t⟩)
      (provision : servers.chat.provision env record.username record.password t
        = ⟨.ok (), more, u⟩) :
      Finished servers env record created id s
        [.setPassword id record.password (.ok ()),
          .provision env record.username record.password (.ok ())]
        (notices.map .notice ++ more.map .notice ++ [.accountCreated record.username])
        (.success created) u

/-- The steps of a record up to its end. -/
inductive Driven (servers : Servers σ) (env : Environment) (record : Record) (s : σ) :
    List Call → List Event → Outcome → σ → Prop where
  | notCreated {cause : IdentityError} {notices more : List Notice} {t u : σ}
      (find : servers.identity.find record.username s = ⟨none, notices, t⟩)
      (create : servers.identity.create record.username t = ⟨.error cause, more, u⟩) :
      Driven servers env record s
        [.find record.username none, .create record.username (.error cause)]
        (notices.map .notice ++ more.map .notice) (.failed (.createUser cause)) u
  | identified {created : Bool} {id : String} {calls more : List Call}
      {events later : List Event} {outcome : Outcome} {t u : σ}
      (entry : Identified servers record s created id calls events t)
      (finish : Finished servers env record created id t more later outcome u) :
      Driven servers env record s (calls ++ more) (events ++ later) outcome u

/-- A record: its steps, and a report when one of them failed. -/
inductive Way (servers : Servers σ) (env : Environment) (record : Record) (s : σ) :
    List Call → List Event → Outcome → σ → Prop where
  | ended {calls : List Call} {events : List Event} {outcome : Outcome} {t : σ}
      (driven : Driven servers env record s calls events outcome t) :
      Way servers env record s calls (events ++ outcome.events record.username) outcome t

/-- Records one after the other, each from the state that the one before it left. -/
inductive Ways (servers : Servers σ) (env : Environment) :
    σ → List Record → List (List Call) → List Event → List Outcome → σ → Prop where
  | nil (s : σ) : Ways servers env s [] [] [] [] s
  | cons {record : Record} {rest : List Record} {calls : List Call} {blocks : List (List Call)}
      {events later : List Event} {outcome : Outcome} {outcomes : List Outcome} {s t u : σ}
      (way : Way servers env record s calls events outcome t)
      (ways : Ways servers env t rest blocks later outcomes u) :
      Ways servers env s (record :: rest) (calls :: blocks) (events ++ later)
        (outcome :: outcomes) u

/-! ## What the functions do -/

/-- From an id, a record finishes, and the counts grow by its calls. -/
theorem setPassword_finished (servers : Servers σ) (env : Environment) (record : Record)
    (created : Bool) (id : String) (counts : Summary) (s : σ) :
    let r := servers.setPassword env record created id counts s
    ∃ calls, Finished servers env record created id s calls r.reports r.value.1 r.state ∧
      r.value.2 = counts.after calls [] := by
  intro r
  rcases hset : servers.identity.setPassword id record.password s with ⟨answer, notices, t⟩
  cases answer with
  | error cause =>
    have hr : r = ⟨(.failed (.setPassword cause), counts), notices.map .notice, t⟩ := by
      simp [r, setPassword, hset]
    rw [hr]
    exact ⟨_, .passwordRefused hset, rfl⟩
  | ok _ =>
    rcases hopen : servers.chat.provision env record.username record.password t with
      ⟨answer, more, u⟩
    cases answer with
    | error cause =>
      have hr : r = ⟨(.failed (.provisionChat cause), counts.countPassword),
          notices.map .notice ++ more.map .notice, u⟩ := by
        simp [r, setPassword, openChat, hset, hopen]
      rw [hr]
      exact ⟨_, .accountRefused hset hopen, rfl⟩
    | ok _ =>
      have hr : r = ⟨(.success created, counts.countPassword.countAccount),
          notices.map .notice ++ more.map .notice ++ [.accountCreated record.username], u⟩ := by
        simp [r, setPassword, openChat, hset, hopen]
      rw [hr]
      exact ⟨_, .done hset hopen, rfl⟩

/-- The steps of a record are driven one of the ways, and the counts grow by its calls. -/
theorem drive_driven (servers : Servers σ) (env : Environment) (record : Record)
    (counts : Summary) (s : σ) :
    let r := servers.drive env record counts s
    ∃ calls, Driven servers env record s calls r.reports r.value.1 r.state ∧
      r.value.2 = counts.after calls [] := by
  intro r
  rcases hfind : servers.identity.find record.username s with ⟨answer, notices, t⟩
  cases answer with
  | some user =>
    obtain ⟨calls, hfinish, hcounts⟩ :=
      setPassword_finished servers env record false user.id counts t
    have hr : r = ⟨(servers.setPassword env record false user.id counts t).value,
        notices.map .notice ++ (servers.setPassword env record false user.id counts t).reports,
        (servers.setPassword env record false user.id counts t).state⟩ := by
      simp [r, drive, hfind]
    rw [hr]
    refine ⟨_, .identified (.found hfind) hfinish, ?_⟩
    rw [hcounts]
    rfl
  | none =>
    rcases hcreate : servers.identity.create record.username t with ⟨answer, more, u⟩
    cases answer with
    | error cause =>
      have hr : r = ⟨(.failed (.createUser cause), counts),
          notices.map .notice ++ more.map .notice, u⟩ := by
        simp [r, drive, hfind, hcreate]
      rw [hr]
      exact ⟨_, .notCreated hfind hcreate, rfl⟩
    | ok id =>
      obtain ⟨calls, hfinish, hcounts⟩ :=
        setPassword_finished servers env record true id counts.countUser u
      have hr : r = ⟨(servers.setPassword env record true id counts.countUser u).value,
          notices.map .notice ++ more.map .notice ++ [.userCreated record.username]
            ++ (servers.setPassword env record true id counts.countUser u).reports,
          (servers.setPassword env record true id counts.countUser u).state⟩ := by
        simp [r, drive, hfind, hcreate]
      rw [hr]
      refine ⟨_, .identified (.created hfind hcreate) hfinish, ?_⟩
      have hone : counts.countUser = counts.after
          [.find record.username none, .create record.username (.ok id)] [] := rfl
      rw [hcounts, hone, Summary.after_after]
      rfl

/-- A record goes one of the ways.  The counts grow by the calls that succeeded, and by one failure
when the record failed. -/
theorem process_way (servers : Servers σ) (env : Environment) (record : Record)
    (counts : Summary) (s : σ) :
    let r := servers.process env record counts s
    ∃ calls, Way servers env record s calls r.reports r.value.1 r.state ∧
      r.value.2 = counts.after calls [r.value.1] := by
  intro r
  obtain ⟨calls, hdriven, hcounts⟩ := drive_driven servers env record counts s
  rcases hdrive : servers.drive env record counts s with ⟨⟨outcome, after⟩, events, t⟩
  rw [hdrive] at hdriven hcounts
  obtain rfl : after = counts.after calls [] := hcounts
  cases outcome with
  | success created =>
    have hr : r = ⟨(.success created, counts.after calls []), events, t⟩ := by
      simp [r, process, hdrive]
    rw [hr]
    have hway := Way.ended hdriven
    rw [Outcome.events, List.append_nil] at hway
    exact ⟨calls, hway, rfl⟩
  | failed failure =>
    have hr : r = ⟨(.failed failure, (counts.after calls []).countFailure),
        events ++ [.recordFailed record.username failure], t⟩ := by
      simp [r, process, hdrive]
    rw [hr]
    exact ⟨calls, .ended hdriven, rfl⟩

/-- Records in order go their ways, each from the state that the one before it left. -/
theorem processAll_ways (servers : Servers σ) (env : Environment) (records : List Record)
    (tally : Tally) (s : σ) :
    let r := servers.processAll env records tally s
    ∃ blocks outcomes, Ways servers env s records blocks r.reports outcomes r.state ∧
      r.value = tally.after blocks.flatten outcomes := by
  induction records generalizing tally s with
  | nil =>
    refine ⟨[], [], .nil s, ?_⟩
    simp [processAll, Tally.after, Summary.after]
  | cons record rest ih =>
    obtain ⟨calls, hway, hcounts⟩ := process_way servers env record tally.summary s
    rcases hprocess : servers.process env record tally.summary s with
      ⟨⟨outcome, counts⟩, events, t⟩
    rw [hprocess] at hway hcounts
    obtain rfl : counts = tally.summary.after calls [outcome] := hcounts
    obtain ⟨blocks, outcomes, hways, htally⟩ := ih (tally.add outcome _) t
    refine ⟨calls :: blocks, outcome :: outcomes, ?_, ?_⟩
    · simpa [processAll, hprocess] using Ways.cons hway hways
    · simp only [processAll, hprocess, Act.bind_apply]
      rw [htally, Tally.add_after, List.flatten_cons]

/-- The tally of a run counts the calls and the ends of its ways. -/
theorem run_ways (servers : Servers σ) (env : Environment) (records : List Record) (s : σ) :
    let r := servers.run env records s
    ∃ blocks events, Ways servers env s records blocks events r.value.outcomes r.state ∧
      r.value.summary = Summary.zero.after blocks.flatten r.value.outcomes ∧
      r.value.processed = r.value.outcomes.length ∧
      r.reports = events ++ [.finished r.value.summary r.value.processed] := by
  intro r
  obtain ⟨blocks, outcomes, hways, htally⟩ := processAll_ways servers env records .zero s
  have hvalue : r.value = Tally.zero.after blocks.flatten outcomes := htally
  have houtcomes : r.value.outcomes = outcomes := by
    rw [hvalue]
    rfl
  refine ⟨blocks, _, ?_, ?_, ?_, rfl⟩
  · rw [houtcomes]
    exact hways
  · rw [houtcomes, hvalue]
    rfl
  · rw [houtcomes, hvalue]
    exact Nat.zero_add _

end Servers

end Onboarding
