import Onboarding.Proofs.Batch.Way

/-!
# The counts of a batch

The counts are bumped along the steps of each record, the failures once the record has ended, and
the number of records in the loop around them.  This module ties all of them to the ways in which
the records ended, over arbitrary servers and batches of any length.

* One record.  `Way.sum_setsPassword` and `Way.sum_opensAccount` say that a record either did a
  step or ended in a way that names the lack; `Way.sum_createsUser` bounds the users.
* A batch.  The same sums over the records of `Ways`, by induction along the batch.
* The assembly.  `run_counts` reads the sums off the tally of a run.
-/

namespace Onboarding

namespace Outcome

/-- Whether a record failed before it had a password: when its user was made or its password
set. -/
def lacksPassword : Outcome → Bool
  | failed (.createUser _) | failed (.setPassword _) => true
  | _ => false

/-- Whether a record failed at its chat account. -/
def lacksAccount : Outcome → Bool
  | failed (.provisionChat _) => true
  | _ => false

/-- A record that did not succeed lacks a password or an account. -/
theorem countP_failed (outcomes : List Outcome) :
    outcomes.countP (!·.isSuccess)
      = outcomes.countP lacksPassword + outcomes.countP lacksAccount := by
  induction outcomes with
  | nil => rfl
  | cons outcome rest ih =>
    simp only [List.countP_cons, ih]
    rcases outcome with created | (cause | cause | cause) <;>
      simp [isSuccess, lacksPassword, lacksAccount] <;> omega

/-- No record failed exactly when all of them succeeded. -/
theorem countP_failed_eq_zero (outcomes : List Outcome) :
    outcomes.countP (!·.isSuccess) = 0 ↔ ∀ outcome ∈ outcomes, outcome.isSuccess := by
  rw [List.countP_eq_zero]
  simp only [Bool.not_eq_true', Bool.not_eq_false]

end Outcome

namespace Servers

variable {σ : Type} {servers : Servers σ} {env : Environment}

/-! ## One record -/

section

variable {record : Record} {s t : σ} {calls : List Call} {events : List Event} {outcome : Outcome}

/-- On the way to an id, nothing counts but a user that is made. -/
theorem Identified.countP {created : Bool} {id : String}
    (h : Identified servers record s created id calls events t) :
    (calls.countP Call.createsUser = if created then 1 else 0) ∧
      calls.countP Call.setsPassword = 0 ∧ calls.countP Call.opensAccount = 0 := by
  cases h with
  | found => exact ⟨rfl, rfl, rfl⟩
  | created => exact ⟨rfl, rfl, rfl⟩

/-- From an id on, no user is made. -/
theorem Finished.countP_createsUser {created : Bool} {id : String}
    (h : Finished servers env record created id s calls events outcome t) :
    calls.countP Call.createsUser = 0 := by
  cases h with
  | passwordRefused => rfl
  | accountRefused => rfl
  | done => rfl

/-- A record either set a password once or lacks one. -/
theorem Way.sum_setsPassword (h : Way servers env record s calls events outcome t) :
    calls.countP Call.setsPassword + [outcome].countP Outcome.lacksPassword = 1 := by
  rcases h with ⟨hdriven⟩
  rcases hdriven with ⟨_, _⟩ | ⟨hentry, hfinish⟩
  · rfl
  · cases hentry <;> cases hfinish <;> rfl

/-- A record either made a chat account once or failed. -/
theorem Way.sum_opensAccount (h : Way servers env record s calls events outcome t) :
    calls.countP Call.opensAccount + [outcome].countP (!·.isSuccess) = 1 := by
  rcases h with ⟨hdriven⟩
  rcases hdriven with ⟨_, _⟩ | ⟨hentry, hfinish⟩
  · rfl
  · cases hentry <;> cases hfinish <;> rfl

/-- A record makes at most one user. -/
theorem Way.sum_createsUser (h : Way servers env record s calls events outcome t) :
    calls.countP Call.createsUser ≤ 1 := by
  rcases h with ⟨hdriven⟩
  rcases hdriven with ⟨_, _⟩ | ⟨hentry, hfinish⟩
  · exact Nat.zero_le 1
  · cases hentry with
    | found => cases hfinish <;> exact Nat.zero_le 1
    | created => cases hfinish <;> exact Nat.le_refl 1

end

/-! ## A batch -/

section

variable {records : List Record} {s t : σ} {blocks : List (List Call)} {events : List Event}
  {outcomes : List Outcome}

/-- Every record ends, and ends once. -/
theorem Ways.length_outcomes (h : Ways servers env s records blocks events outcomes t) :
    outcomes.length = records.length := by
  induction h with
  | nil => rfl
  | cons _ _ ih => rw [List.length_cons, List.length_cons, ih]

theorem Ways.sum_setsPassword (h : Ways servers env s records blocks events outcomes t) :
    blocks.flatten.countP Call.setsPassword + outcomes.countP Outcome.lacksPassword
      = records.length := by
  induction h with
  | nil => rfl
  | @cons _ _ calls _ _ _ outcome _ _ _ _ way _ ih =>
    have hone := way.sum_setsPassword
    rw [List.flatten_cons, List.countP_append, List.length_cons,
      ← List.singleton_append (x := outcome), List.countP_append]
    omega

theorem Ways.sum_opensAccount (h : Ways servers env s records blocks events outcomes t) :
    blocks.flatten.countP Call.opensAccount + outcomes.countP (!·.isSuccess)
      = records.length := by
  induction h with
  | nil => rfl
  | @cons _ _ calls _ _ _ outcome _ _ _ _ way _ ih =>
    have hone := way.sum_opensAccount
    rw [List.flatten_cons, List.countP_append, List.length_cons,
      ← List.singleton_append (x := outcome), List.countP_append]
    omega

theorem Ways.sum_createsUser (h : Ways servers env s records blocks events outcomes t) :
    blocks.flatten.countP Call.createsUser ≤ records.length := by
  induction h with
  | nil => exact Nat.le_refl 0
  | cons way _ ih =>
    have hone := way.sum_createsUser
    rw [List.flatten_cons, List.countP_append, List.length_cons]
    omega

end

/-! ## A run -/

/-- Every record of a run is processed and ends in one of the outcomes, and the failures are the
records that did not succeed. -/
theorem run_covers (servers : Servers σ) (env : Environment) (records : List Record) (s : σ) :
    let tally := (servers.run env records s).value
    tally.processed = records.length ∧ tally.outcomes.length = records.length ∧
      tally.summary.failures = tally.outcomes.countP (!·.isSuccess) := by
  intro tally
  obtain ⟨_, _, hways, hsummary, hprocessed, _⟩ := run_ways servers env records s
  refine ⟨hprocessed.trans hways.length_outcomes, hways.length_outcomes, ?_⟩
  rw [hsummary]
  exact Nat.zero_add _

/-- The counts of a run, whatever the servers answer.  All records are processed.  Each made a chat
account or failed, each with a chat account had its password set, and the records between these
counts are those that failed at the chat account, or before they had a password.  The exit code
tells whether all of them succeeded. -/
theorem run_counts (servers : Servers σ) (env : Environment) (records : List Record) (s : σ) :
    let tally := (servers.run env records s).value
    tally.processed = records.length ∧
      tally.outcomes.length = records.length ∧
      tally.summary.accountsCreated + tally.summary.failures = tally.processed ∧
      tally.summary.accountsCreated ≤ tally.summary.passwordsSet ∧
      tally.summary.passwordsSet ≤ tally.processed ∧
      tally.summary.usersCreated ≤ tally.processed ∧
      tally.summary.passwordsSet - tally.summary.accountsCreated
        = tally.outcomes.countP Outcome.lacksAccount ∧
      tally.processed - tally.summary.passwordsSet
        = tally.outcomes.countP Outcome.lacksPassword ∧
      tally.summary.exitCode = if ∀ outcome ∈ tally.outcomes, outcome.isSuccess then 0 else 5 := by
  intro tally
  obtain ⟨blocks, _, hways, hsummary, _, _⟩ := run_ways servers env records s
  obtain ⟨hall, hlength, hfailures⟩ : tally.processed = records.length ∧
      tally.outcomes.length = records.length ∧
      tally.summary.failures = tally.outcomes.countP (!·.isSuccess) :=
    run_covers servers env records s
  have hpasswords : blocks.flatten.countP Call.setsPassword
      + tally.outcomes.countP Outcome.lacksPassword = records.length := hways.sum_setsPassword
  have haccounts : blocks.flatten.countP Call.opensAccount
      + tally.outcomes.countP (!·.isSuccess) = records.length := hways.sum_opensAccount
  have husers := hways.sum_createsUser
  have hfailed := Outcome.countP_failed tally.outcomes
  have hsucceeded := Outcome.countP_failed_eq_zero tally.outcomes
  have hset : tally.summary.passwordsSet = blocks.flatten.countP Call.setsPassword := by
    rw [hsummary]
    exact Nat.zero_add _
  have hopened : tally.summary.accountsCreated = blocks.flatten.countP Call.opensAccount := by
    rw [hsummary]
    exact Nat.zero_add _
  have hmade : tally.summary.usersCreated = blocks.flatten.countP Call.createsUser := by
    rw [hsummary]
    exact Nat.zero_add _
  have hexit : tally.summary.exitCode = if tally.summary.failures = 0 then 0 else 5 := rfl
  refine ⟨hall, hlength, ?_, ?_, ?_, ?_, ?_, ?_, ?_⟩
  · omega
  · omega
  · omega
  · omega
  · omega
  · omega
  · simp only [hexit, hfailures, hsucceeded]

end Servers

end Onboarding
