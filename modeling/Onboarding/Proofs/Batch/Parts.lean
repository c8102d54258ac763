import Onboarding.Proofs.Batch.Calls

/-!
# Batches in parts

One batch of all the records comes to what the parts of it come to one after the other.  The counts
are only ever added to, and no step looks at them, so that nothing is carried from one record to the
next but the state of the servers.

* Counts.  `Summary.plus` and `Tally.plus` put counts together.
* One record.  `process_plus`: counts that were there before are added to those of the record and
  change nothing else.  There is one lemma for each function that the record goes through.
* A batch.  `processAll_plus` carries this along the records, and `processAll_append` cuts them in
  two.
* The assembly.  `run_append` is about whole runs.
-/

namespace Onboarding

/-! ## Counts -/

/-- Two summaries put together, count by count. -/
def Summary.plus (a b : Summary) : Summary where
  usersCreated := a.usersCreated + b.usersCreated
  passwordsSet := a.passwordsSet + b.passwordsSet
  accountsCreated := a.accountsCreated + b.accountsCreated
  failures := a.failures + b.failures

/-- A batch and one after it, put together. -/
def Tally.plus (a b : Tally) : Tally where
  summary := a.summary.plus b.summary
  processed := a.processed + b.processed
  outcomes := a.outcomes ++ b.outcomes

theorem Tally.plus_zero (a : Tally) : a.plus .zero = a := by
  have houtcomes : a.outcomes ++ [] = a.outcomes := List.append_nil _
  exact congrArg (Tally.mk a.summary a.processed) houtcomes

/-- A record more, in a batch or in the part of it that the record belongs to. -/
theorem Tally.plus_add (a b : Tally) (outcome : Outcome) (counts : Summary) :
    (a.plus b).add outcome (a.summary.plus counts) = a.plus (b.add outcome counts) := by
  have houtcomes : a.outcomes ++ b.outcomes ++ [outcome] = a.outcomes ++ (b.outcomes ++ [outcome]) :=
    List.append_assoc _ _ _
  exact congrArg (Tally.mk _ _) houtcomes

namespace Servers

variable {σ : Type} (servers : Servers σ) (env : Environment)

/-! ## One record -/

/-- The end of a record, with counts from before added to its own. -/
def withCounts (before : Summary) (ended : Outcome × Summary) : Outcome × Summary :=
  (ended.1, before.plus ended.2)

section

variable (record : Record) (created : Bool) (before counts : Summary)

theorem openChat_plus :
    servers.openChat env record created (before.plus counts)
      = withCounts before <$> servers.openChat env record created counts := by
  rw [openChat, openChat, map_bind]
  refine bind_congr fun answer => ?_
  cases answer with
  | ok _ => rfl
  | error cause => rfl

theorem setPassword_plus (id : String) :
    servers.setPassword env record created id (before.plus counts)
      = withCounts before <$> servers.setPassword env record created id counts := by
  rw [setPassword, setPassword, map_bind]
  refine bind_congr fun answer => ?_
  cases answer with
  | ok _ => exact servers.openChat_plus env record created before counts.countPassword
  | error cause => rfl

theorem drive_plus :
    servers.drive env record (before.plus counts)
      = withCounts before <$> servers.drive env record counts := by
  rw [drive, drive, map_bind]
  refine bind_congr fun found => ?_
  cases found with
  | some user => exact servers.setPassword_plus env record false before counts user.id
  | none =>
    rw [map_bind]
    refine bind_congr fun answer => ?_
    cases answer with
    | ok id =>
      rw [map_bind]
      refine bind_congr fun _ => ?_
      exact servers.setPassword_plus env record true before counts.countUser id
    | error cause => rfl

/-- A record adds to the counts, and does not look at them. -/
theorem process_plus :
    servers.process env record (before.plus counts)
      = withCounts before <$> servers.process env record counts := by
  rw [process, process, drive_plus, map_bind, bind_map_left]
  refine bind_congr fun ended => ?_
  rcases ended with ⟨created | failure, counts⟩
  · rfl
  · rfl

end

/-! ## A batch -/

/-- Records add to a tally, and do not look at it. -/
theorem processAll_plus (records : List Record) (before tally : Tally) :
    servers.processAll env records (before.plus tally)
      = before.plus <$> servers.processAll env records tally := by
  induction records generalizing tally with
  | nil => rfl
  | cons record rest ih =>
    have hsummary : (before.plus tally).summary = before.summary.plus tally.summary := rfl
    rw [processAll, processAll, hsummary, process_plus, map_bind, bind_map_left]
    refine bind_congr fun ended => ?_
    rcases ended with ⟨outcome, counts⟩
    simp only [withCounts]
    rw [Tally.plus_add, ih]

/-- The records of two batches in a row are those of the one and then those of the other. -/
theorem processAll_append (records more : List Record) (tally : Tally) :
    servers.processAll env (records ++ more) tally
      = servers.processAll env records tally >>= servers.processAll env more := by
  induction records generalizing tally with
  | nil => rfl
  | cons record rest ih =>
    rw [List.cons_append, processAll, processAll, bind_assoc]
    exact bind_congr fun ended => ih _

/-- Two batches in a row, each from nothing, the second from the state that the first left. -/
theorem processAll_parts (records more : List Record) (s : σ) :
    let first := servers.processAll env records .zero s
    let second := servers.processAll env more .zero first.state
    servers.processAll env (records ++ more) .zero s
      = ⟨first.value.plus second.value, first.reports ++ second.reports, second.state⟩ := by
  intro first second
  have hsecond : servers.processAll env more first.value first.state
      = ⟨first.value.plus second.value, second.reports, second.state⟩ := by
    have hplus := servers.processAll_plus env more first.value .zero
    rw [Tally.plus_zero] at hplus
    rw [hplus, Act.map_apply]
  have hwhole : servers.processAll env (records ++ more) .zero s
      = ⟨(servers.processAll env more first.value first.state).value,
        first.reports ++ (servers.processAll env more first.value first.state).reports,
        (servers.processAll env more first.value first.state).state⟩ := by
    rw [processAll_append, Act.bind_apply]
  rw [hwhole, hsecond]

/-! ## Runs -/

/-- What a run of two batches in a row counts, and the state that it leaves. -/
theorem run_parts (records more : List Record) (s : σ) :
    let whole := servers.run env (records ++ more) s
    let first := servers.run env records s
    let second := servers.run env more first.state
    whole.value = first.value.plus second.value ∧ whole.state = second.state := by
  intro whole first second
  have hparts := servers.processAll_parts env records more s
  have hvalue := congrArg Act.Done.value hparts
  have hstate := congrArg Act.Done.state hparts
  exact ⟨hvalue, hstate⟩

/-- A run over records and more records is a run over the ones and then a run over the others, from
the state that the first run left.  It makes the calls of the two runs, leaves the same state, and
counts, count by count, what they count together.  So it is with one record: whatever the counts
are before it, it adds to them what it adds to none, ends in the same way, reports the same, makes
the same calls and leaves the same state. -/
theorem run_append (records more : List Record) (s : σ) (log : List Call) :
    let whole := servers.run env (records ++ more) s
    let first := servers.run env records s
    let second := servers.run env more first.state
    let logged (part : List Record) := servers.logged.run env part
    (whole.value.summary = first.value.summary.plus second.value.summary ∧
        whole.value.processed = first.value.processed + second.value.processed ∧
        whole.value.outcomes = first.value.outcomes ++ second.value.outcomes ∧
        whole.state = second.state) ∧
      (logged (records ++ more) (s, log)).state
        = (logged more (logged records (s, log)).state).state ∧
      ∀ record before,
        let alone := servers.process env record .zero s
        servers.process env record before s
            = ⟨(alone.value.1, before.plus alone.value.2), alone.reports, alone.state⟩ ∧
          (servers.logged.process env record before (s, log)).state
            = (servers.logged.process env record .zero (s, log)).state := by
  intro whole first second logged
  obtain ⟨hvalue, hstate⟩ := servers.run_parts env records more s
  have hwhole : whole.value = first.value.plus second.value := hvalue
  have hlog := (servers.logged.run_parts env records more (s, log)).2
  have hrecord : ∀ (τ : Type) (servers : Servers τ) (record : Record) (before : Summary) (t : τ),
      servers.process env record before t
        = (withCounts before <$> servers.process env record .zero) t := by
    intro τ servers record before t
    have hzero : before.plus .zero = before := rfl
    rw [← process_plus, hzero]
  refine ⟨?_, hlog, fun record before => ⟨?_, ?_⟩⟩
  · rw [hwhole]
    exact ⟨rfl, rfl, rfl, hstate⟩
  · rw [hrecord, Act.map_apply]
    rfl
  · rw [hrecord, Act.map_apply]

end Servers

end Onboarding
