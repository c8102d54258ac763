import Mathlib.Data.List.Forall2
import Onboarding.Log
import Onboarding.Proofs.Batch.Counts

/-!
# The log of a batch

The log of a run tells what the run comes to.  Lines and counts are written at different places
along the steps of a record, so that their agreement has to be carried from record to record.

* The lines.  What a run writes itself, beside the lines of the clients, and which lines tell of
  what.  No line of a client is one of these (`ofNotice_quiet`).
* One record.  `Told` is what stands in the log about a record.  Every way is told so
  (`Way.told`).
* A batch.  `Journal` says how lines agree with calls and ends.  It holds of the lines about one
  record (`Told.journal`) and of those about records in a row (`Ways.journal`).
* The assembly.  `run_lines` is about the log of a whole run.
-/

namespace Onboarding

namespace Log

/-! ## The lines -/

/-- A user was made. -/
def userLine (username : String) : Line :=
  ⟨.info, "created Keycloak user", [("username", username)]⟩

/-- A chat account was made. -/
def accountLine (username : String) : Line :=
  ⟨.info, "created Matrix user", [("username", username)]⟩

/-- A record failed, at a step and for a reason. -/
def failureLine (username : String) (failure : Failure) : Line :=
  ⟨.error, "record failed",
    [("username", username), ("step", stepName failure), ("reason", failure.reason)]⟩

/-- The line at the end of a run. -/
def finishLine (summary : Summary) (processed : Nat) : Line :=
  ⟨.info, "provisioning finished",
    [("processed", toString processed), ("created_idp", toString summary.usersCreated),
      ("passwords_set", toString summary.passwordsSet),
      ("created_chat", toString summary.accountsCreated),
      ("failures", toString summary.failures)]⟩

/-- The line that ends what is told about a record. -/
def endLine (username : String) : Outcome → Line
  | .success _ => accountLine username
  | .failed failure => failureLine username failure

/-- The line about a record that failed. -/
def failureLine? : Record × Outcome → Option Line
  | (_, .success _) => none
  | (record, .failed failure) => some (failureLine record.username failure)

namespace Line

/-- Whether a line tells of a user that was made. -/
def tellsUser (l : Line) : Bool :=
  l.level == .info && l.message == "created Keycloak user"

/-- Whether a line tells of a chat account that was made. -/
def tellsAccount (l : Line) : Bool :=
  l.level == .info && l.message == "created Matrix user"

/-- Whether a line tells of a record that failed. -/
def tellsFailure (l : Line) : Bool :=
  l.level == .error && l.message == "record failed"

end Line

/-- No line of a client tells of any of these. -/
theorem ofNotice_quiet (w : Wording) (notice : Notice) :
    (ofNotice w notice).tellsUser = false ∧ (ofNotice w notice).tellsAccount = false ∧
      (ofNotice w notice).tellsFailure = false := by
  cases notice <;> exact ⟨rfl, rfl, rfl⟩

/-- Lines of clients are left out by whatever leaves out each of them. -/
theorem quiet_notices {w : Wording} {p : Line → Bool} (h : ∀ notice, p (ofNotice w notice) = false)
    (notices : List Notice) :
    (notices.map (ofNotice w)).countP p = 0 ∧ (notices.map (ofNotice w)).filter p = [] := by
  have hall : ∀ line ∈ notices.map (ofNotice w), ¬ p line := by
    intro line hline
    obtain ⟨notice, -, rfl⟩ := List.mem_map.mp hline
    simp [h]
  exact ⟨List.countP_eq_zero.mpr hall, List.filter_eq_nil_iff.mpr hall⟩

/-! ## One record -/

/-- What stands in the log about a record: lines of the clients, the line of its user when one was
made for it, more lines of the clients, and last the line of its end.  A record that succeeded says
itself whether a user was made for it. -/
structure Told (w : Wording) (record : Record) (created : Bool) (outcome : Outcome)
    (lines : List Line) : Prop where
  flag : ∀ made, outcome = .success made → made = created
  text : ∃ before between : List Notice,
    lines = before.map (ofNotice w) ++ (if created then [userLine record.username] else [])
      ++ between.map (ofNotice w) ++ [endLine record.username outcome]

/-- How the lines about some records agree with the calls that were made for them, and with their
ends. -/
structure Journal (w : Wording) (records : List Record) (calls : List Call)
    (outcomes : List Outcome) (lines : List Line) : Prop where
  users : lines.countP Line.tellsUser = calls.countP Call.createsUser
  accounts : lines.countP Line.tellsAccount = calls.countP Call.opensAccount
  failures : lines.countP Line.tellsFailure = outcomes.countP (!·.isSuccess)
  failed : lines.filter Line.tellsFailure = (records.zip outcomes).filterMap failureLine?
  told : ∃ blocks : List (List Line), lines = blocks.flatten ∧
    List.Forall₂ (fun ended block => ∃ created, Told w ended.1 created ended.2 block)
      (records.zip outcomes) blocks

section

variable {w : Wording} {record : Record} {created : Bool} {outcome : Outcome} {lines : List Line}

/-- The lines about one record, one kind after the other. -/
theorem Told.counts (h : Told w record created outcome lines) :
    (lines.countP Line.tellsUser = if created then 1 else 0) ∧
      lines.countP Line.tellsAccount + [outcome].countP (!·.isSuccess) = 1 ∧
      lines.countP Line.tellsFailure = [outcome].countP (!·.isSuccess) ∧
      lines.filter Line.tellsFailure = [(record, outcome)].filterMap failureLine? := by
  obtain ⟨before, between, rfl⟩ := h.text
  have huser := quiet_notices fun notice => (ofNotice_quiet w notice).1
  have haccount := quiet_notices fun notice => (ofNotice_quiet w notice).2.1
  have hfailure := quiet_notices fun notice => (ofNotice_quiet w notice).2.2
  simp only [List.countP_append, List.filter_append, huser, haccount, hfailure, Nat.zero_add,
    Nat.add_zero, List.nil_append, List.append_nil]
  cases created <;> cases outcome <;> exact ⟨rfl, rfl, rfl, rfl⟩

/-- What is told about one record agrees with its calls and its end. -/
theorem Told.journal {calls : List Call} (h : Told w record created outcome lines)
    (huser : calls.countP Call.createsUser = if created then 1 else 0)
    (haccount : calls.countP Call.opensAccount + [outcome].countP (!·.isSuccess) = 1) :
    Journal w [record] calls [outcome] lines := by
  obtain ⟨husers, haccounts, hfailures, hfailed⟩ := h.counts
  constructor
  · rw [husers, huser]
  · omega
  · exact hfailures
  · exact hfailed
  · exact ⟨[lines], (List.flatten_singleton).symm, .cons ⟨created, h⟩ .nil⟩

end

theorem Journal.nil (w : Wording) : Journal w [] [] [] [] :=
  ⟨rfl, rfl, rfl, rfl, [], rfl, .nil⟩

/-- The lines about a record and those about more records, one after the other. -/
theorem Journal.cons {w : Wording} {record : Record} {rest : List Record} {calls more : List Call}
    {outcome : Outcome} {outcomes : List Outcome} {lines later : List Line}
    (h : Journal w [record] calls [outcome] lines) (h' : Journal w rest more outcomes later) :
    Journal w (record :: rest) (calls ++ more) (outcome :: outcomes) (lines ++ later) := by
  obtain ⟨blocks, hblocks, htold⟩ := h.told
  obtain ⟨blocks', hblocks', htold'⟩ := h'.told
  have houtcomes : outcome :: outcomes = [outcome] ++ outcomes := rfl
  have hended : (record :: rest).zip (outcome :: outcomes)
      = [record].zip [outcome] ++ rest.zip outcomes := rfl
  constructor
  · rw [List.countP_append, List.countP_append, h.users, h'.users]
  · rw [List.countP_append, List.countP_append, h.accounts, h'.accounts]
  · rw [houtcomes, List.countP_append, List.countP_append, h.failures, h'.failures]
  · rw [hended, List.filter_append, List.filterMap_append, h.failed, h'.failed]
  · refine ⟨blocks ++ blocks', ?_, ?_⟩
    · rw [hblocks, hblocks', List.flatten_append]
    · rw [hended]
      exact List.rel_append htold htold'

end Log

namespace Servers

open Log (Journal Told)

variable {σ : Type} {servers : Servers σ} {env : Environment} (w : Wording)

section

variable {record : Record} {s t : σ} {calls : List Call} {events : List Event} {outcome : Outcome}

/-- The lines of reports that clients made. -/
theorem map_ofEvent_notice (notices : List Notice) :
    (notices.map Event.notice).map (Log.ofEvent w) = notices.map (Log.ofNotice w) :=
  List.map_map

theorem Identified.lines {created : Bool} {id : String}
    (h : Identified servers record s created id calls events t) :
    ∃ before : List Notice, events.map (Log.ofEvent w)
      = before.map (Log.ofNotice w) ++ if created then [Log.userLine record.username] else [] := by
  cases h with
  | @found _ notices =>
    refine ⟨notices, ?_⟩
    rw [map_ofEvent_notice]
    exact (List.append_nil _).symm
  | @created _ notices more =>
    refine ⟨notices ++ more, ?_⟩
    simp only [List.map_append, map_ofEvent_notice]
    rfl

/-- From an id on, the lines are those of clients and that of the end. -/
theorem Finished.lines {created : Bool} {id : String}
    (h : Finished servers env record created id s calls events outcome t) :
    (∀ made, outcome = .success made → made = created) ∧
      ∃ between : List Notice, (events ++ outcome.events record.username).map (Log.ofEvent w)
        = between.map (Log.ofNotice w) ++ [Log.endLine record.username outcome] := by
  cases h with
  | @passwordRefused cause notices =>
    refine ⟨nofun, notices, ?_⟩
    simp only [List.map_append, map_ofEvent_notice]
    rfl
  | @accountRefused cause notices more =>
    refine ⟨nofun, notices ++ more, ?_⟩
    simp only [List.map_append, map_ofEvent_notice]
    rfl
  | @done notices more =>
    refine ⟨fun made hmade => (Outcome.success.inj hmade).symm, notices ++ more, ?_⟩
    simp only [Outcome.events, List.append_nil, List.map_append, map_ofEvent_notice]
    rfl

/-- Every way is told, with the line of the user that was made on it. -/
theorem Way.told (h : Way servers env record s calls events outcome t) :
    ∃ created, Told w record created outcome (events.map (Log.ofEvent w)) ∧
      calls.countP Call.createsUser = if created then 1 else 0 := by
  rcases h with ⟨hdriven⟩
  cases hdriven with
  | @notCreated cause notices more =>
    refine ⟨false, ⟨nofun, notices, more, ?_⟩, rfl⟩
    simp only [List.map_append, map_ofEvent_notice, Bool.false_eq_true, if_false, List.append_nil]
    rfl
  | @identified created id _ _ events later _ _ _ entry finish =>
    obtain ⟨before, hentry⟩ := entry.lines w
    obtain ⟨hflag, between, hfinish⟩ := finish.lines w
    refine ⟨created, ⟨hflag, before, between, ?_⟩, ?_⟩
    · rw [List.append_assoc, List.map_append, hentry, hfinish, ← List.append_assoc]
    · rw [List.countP_append, entry.countP.1, finish.countP_createsUser]
      rfl

end

/-! ## A batch -/

theorem Ways.journal {records : List Record} {s t : σ} {blocks : List (List Call)}
    {events : List Event} {outcomes : List Outcome}
    (h : Ways servers env s records blocks events outcomes t) :
    Journal w records blocks.flatten outcomes (events.map (Log.ofEvent w)) := by
  induction h with
  | nil => exact .nil w
  | cons way _ ih =>
    obtain ⟨created, htold, huser⟩ := way.told w
    have hfirst := htold.journal huser way.sum_opensAccount
    rw [List.flatten_cons, List.map_append]
    exact hfirst.cons ih

/-! ## Runs -/

/-- The log of a run agrees with what the run comes to, whatever the servers answer and libraries
say.  There is a line for each user and each chat account that is counted, and for each failure.
The lines of failures are those of the records that failed, in the order of the records, each with
its user name, its step and its reason.  What is told about the records stands in their order too:
one line at the end of each, of its account or of its failure, behind the line of its user if there
is one.  The last line of all has the counts and the number of records. -/
theorem run_lines (servers : Servers σ) (env : Environment) (records : List Record) (s : σ) :
    let run := servers.run env records s
    let tally := run.value
    let lines := run.reports.map (Log.ofEvent w)
    tally.outcomes.length = records.length ∧
      lines.countP Log.Line.tellsUser = tally.summary.usersCreated ∧
      lines.countP Log.Line.tellsAccount = tally.summary.accountsCreated ∧
      lines.countP Log.Line.tellsFailure = tally.summary.failures ∧
      lines.filter Log.Line.tellsFailure
        = (records.zip tally.outcomes).filterMap Log.failureLine? ∧
      ∃ blocks : List (List Log.Line),
        lines = blocks.flatten ++ [Log.finishLine tally.summary tally.processed] ∧
          List.Forall₂ (fun ended block =>
            (∃ created, Told w ended.1 created ended.2 block) ∧
              block.countP Log.Line.tellsAccount + block.countP Log.Line.tellsFailure = 1)
            (records.zip tally.outcomes) blocks := by
  intro run tally lines
  obtain ⟨blocks, events, hways, hsummary, -, hreports⟩ := run_ways servers env records s
  have hjournal := hways.journal w
  have hlines : lines
      = events.map (Log.ofEvent w) ++ [Log.finishLine tally.summary tally.processed] := by
    have hlast : lines = (events ++ [Event.finished tally.summary tally.processed]).map
        (Log.ofEvent w) := congrArg (List.map (Log.ofEvent w)) hreports
    rw [hlast, List.map_append]
    rfl
  have hcounts : tally.summary = Summary.zero.after blocks.flatten tally.outcomes := hsummary
  rw [Summary.zero_after] at hcounts
  obtain ⟨told, htext, htold⟩ := hjournal.told
  refine ⟨hways.length_outcomes, ?_, ?_, ?_, ?_, told, ?_, ?_⟩
  · rw [hlines, List.countP_append, hjournal.users, hcounts]
    rfl
  · rw [hlines, List.countP_append, hjournal.accounts, hcounts]
    rfl
  · rw [hlines, List.countP_append, hjournal.failures, hcounts]
    rfl
  · rw [hlines, List.filter_append, hjournal.failed]
    exact List.append_nil _
  · rw [hlines, htext]
  · refine htold.imp fun ended block ⟨created, hblock⟩ => ⟨⟨created, hblock⟩, ?_⟩
    obtain ⟨-, hends, hfailure, -⟩ := hblock.counts
    rw [hfailure]
    exact hends

end Servers

end Onboarding
