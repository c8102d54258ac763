import Onboarding.Chat.Memory
import Onboarding.Proofs.Batch.Counts
import Onboarding.Proofs.Identity.Memory

/-!
# Batches in memory

What a batch does to servers in memory, in closed form.  The users after it are those before it
with the names that join, and each count is a number of names that can be read off the users before
it, because no record changes the id that a later one comes to.

* One record.  `Way.settled`: what it does to the users, and what it adds to each count.
* A batch.  `Ways.settled`: the same of all its records, by induction along the batch.
* A run.  `Settled` is the closed form, which every run has (`run_settled`).
* The results.  `run_again`: the same batch once more makes no user and counts the same otherwise.
  `run_extends`: which users are added, and that the order of the records does not matter.
-/

namespace Onboarding

open Identity.Memory (Refusals newId)

/-! ## Names -/

namespace Identity.Memory.Refusals

/-- Whether the password of a name is set, with the ids that names come to: there is one, and it is
not refused. -/
def takesPassword (r : Refusals) (ids : String → Option String) (name : String) : Bool :=
  (ids name).any (!r.password.contains ·)

/-- Whether a name gets a chat account from a server that fails for `failing`. -/
def takesAccount (r : Refusals) (failing : List String) (ids : String → Option String)
    (name : String) : Bool :=
  r.takesPassword ids name && !failing.contains name

end Identity.Memory.Refusals

namespace Servers

/-- The two servers in memory. -/
def inMemory (refusals : Refusals) (failing : List String) :
    Servers (Identity.Memory × Chat.Memory) where
  identity := (Identity.Memory.server refusals).within Prod.fst fun m s => (m, s.2)
  chat := (Chat.Memory.server failing).within Prod.snd fun m s => (s.1, m)

section

variable {refusals : Refusals} {failing : List String} {env : Environment} {record : Record}
  {s t u : Identity.Memory × Chat.Memory} {notices : List Notice} {calls : List Call}
  {events : List Event} {outcome : Outcome}

/-! ## Answers -/

theorem find_inMemory {name : String} {found : Option User}
    (h : (inMemory refusals failing).identity.find name s = ⟨found, notices, t⟩) :
    found.map User.id = s.1.users.lookup name ∧ t.1.users = s.1.users := by
  have hvalue : found = (s.1.users.lookup name).map (⟨·, name⟩) :=
    (congrArg Act.Done.value h).symm
  cases h
  refine ⟨?_, rfl⟩
  rw [hvalue, Option.map_map]
  exact Option.map_id'

/-- A name that has no id is refused, or gets one behind the others. -/
theorem create_inMemory {name : String} {made : Except IdentityError String}
    (hnew : s.1.users.lookup name = none)
    (h : (inMemory refusals failing).identity.create name s = ⟨made, notices, t⟩) :
    (made.toOption = if name ∈ refusals.create then none else some (newId name)) ∧
      t.1.users = if name ∈ refusals.create then s.1.users
        else s.1.users ++ [(name, newId name)] := by
  by_cases hrefused : name ∈ refusals.create
  · have hr : (inMemory refusals failing).identity.create name s
        = ⟨.error (.createRejected 500), [], (s.1.note (.create name), s.2)⟩ := by
      simp [inMemory, Identity.within, Identity.Memory.server, Act.within, Act.ofFunction,
        hrefused]
    rw [hr] at h
    cases h
    rw [if_pos hrefused, if_pos hrefused]
    exact ⟨rfl, rfl⟩
  · have hr : (inMemory refusals failing).identity.create name s
        = ⟨.ok (newId name), [],
          ((s.1.note (.create name)).insert name (newId name), s.2)⟩ := by
      simp [inMemory, Identity.within, Identity.Memory.server, Act.within, Act.ofFunction,
        hrefused]
    rw [hr] at h
    cases h
    rw [if_neg hrefused, if_neg hrefused]
    exact ⟨rfl, Identity.Memory.users_insert_of_new (m := s.1.note (.create name)) hnew _⟩

theorem setPassword_inMemory {id : String} {password : Secret} {set : Except IdentityError Unit}
    (h : (inMemory refusals failing).identity.setPassword id password s = ⟨set, notices, t⟩) :
    (set = .ok () ↔ id ∉ refusals.password) ∧ t.1.users = s.1.users := by
  have hr : (inMemory refusals failing).identity.setPassword id password s
      = ⟨if id ∈ refusals.password then .error (.passwordRejected 403) else .ok (), [],
        (s.1.note (.setPassword id password.reveal), s.2)⟩ := by
    by_cases hrefused : id ∈ refusals.password <;>
      simp [inMemory, Identity.within, Identity.Memory.server, Act.within, Act.ofFunction,
        hrefused]
  rw [hr] at h
  cases h
  refine ⟨?_, rfl⟩
  by_cases hrefused : id ∈ refusals.password <;> simp [hrefused]

theorem provision_inMemory {name : String} {password : Secret} {account : Except ChatError Unit}
    (h : (inMemory refusals failing).chat.provision env name password s = ⟨account, notices, t⟩) :
    (account = .ok () ↔ name ∉ failing) ∧ t.1.users = s.1.users := by
  have hvalue : account
      = if failing.contains name then .error (.scriptFailed (.exited 1) "boom") else .ok () :=
    (congrArg Act.Done.value h).symm
  cases h
  refine ⟨?_, rfl⟩
  rw [hvalue]
  by_cases hfails : name ∈ failing <;> simp [hfails]

/-! ## One record -/

/-- A record that gets an id has the one that its name settles on, and adds a user when its name
joins. -/
theorem Identified.settled {created : Bool} {id : String}
    (h : Identified (inMemory refusals failing) record s created id calls events t) :
    refusals.settledId? s.1.users record.username = some id ∧
      created = refusals.joins s.1.users record.username ∧
      t.1.users = refusals.enrol s.1.users record.username := by
  cases h with
  | @found user _ _ find =>
    obtain ⟨hid, husers⟩ := find_inMemory find
    have hstays : ¬ refusals.joins s.1.users record.username := by
      rw [refusals.joins_iff, ← hid]
      rintro ⟨hnone, -⟩
      cases hnone
    refine ⟨?_, (Bool.eq_false_iff.mpr hstays).symm, ?_⟩
    · rw [refusals.settledId?_of_not_joins _ hstays, ← hid]
      rfl
    · rw [husers, Refusals.enrol, if_neg hstays]
  | @created _ _ _ entered _ find create =>
    obtain ⟨hnone, hentered⟩ := find_inMemory find
    obtain ⟨hid, husers⟩ := create_inMemory (hentered ▸ hnone.symm) create
    have hfree : record.username ∉ refusals.create := by
      intro hrefused
      rw [if_pos hrefused] at hid
      cases hid
    rw [if_neg hfree] at hid husers
    have hjoins : refusals.joins s.1.users record.username :=
      (refusals.joins_iff _ _).mpr ⟨hnone.symm, hfree⟩
    refine ⟨?_, hjoins.symm, ?_⟩
    · rw [refusals.settledId?_of_joins _ hjoins, ← hid]
      rfl
    · rw [husers, hentered, Refusals.enrol, if_pos hjoins]

/-- A record that gets no id settles on none, and adds no user. -/
theorem unsettled_of_notCreated {cause : IdentityError} {more : List Notice}
    (find : (inMemory refusals failing).identity.find record.username s = ⟨none, notices, t⟩)
    (create : (inMemory refusals failing).identity.create record.username t
      = ⟨.error cause, more, u⟩) :
    refusals.settledId? s.1.users record.username = none ∧
      refusals.joins s.1.users record.username = false ∧
      u.1.users = refusals.enrol s.1.users record.username := by
  obtain ⟨hnone, hentered⟩ := find_inMemory find
  obtain ⟨hid, husers⟩ := create_inMemory (hentered ▸ hnone.symm) create
  have hrefused : record.username ∈ refusals.create := by
    by_cases hrefused : record.username ∈ refusals.create
    · exact hrefused
    · rw [if_neg hrefused] at hid
      cases hid
  rw [if_pos hrefused] at husers
  have hstays : ¬ refusals.joins s.1.users record.username := by
    rw [refusals.joins_iff]
    rintro ⟨-, hfree⟩
    exact hfree hrefused
  refine ⟨?_, Bool.eq_false_iff.mpr hstays, ?_⟩
  · rw [refusals.settledId?_of_not_joins _ hstays, ← hnone]
    rfl
  · rw [husers, hentered, Refusals.enrol, if_neg hstays]

/-- From an id, a record adds no user, and its password and its account depend on the refusals and
the failures alone. -/
theorem Finished.settled {created : Bool} {id : String}
    (h : Finished (inMemory refusals failing) env record created id s calls events outcome t) :
    t.1.users = s.1.users ∧
      (calls.countP Call.setsPassword = if id ∈ refusals.password then 0 else 1) ∧
      calls.countP Call.opensAccount
        = if id ∈ refusals.password ∨ record.username ∈ failing then 0 else 1 := by
  cases h with
  | passwordRefused set =>
    obtain ⟨hset, husers⟩ := setPassword_inMemory set
    have hrefused : id ∈ refusals.password := by simpa using hset
    rw [if_pos hrefused, if_pos (Or.inl hrefused)]
    exact ⟨husers, rfl, rfl⟩
  | accountRefused set provision =>
    obtain ⟨hset, husers⟩ := setPassword_inMemory set
    obtain ⟨hopened, husers'⟩ := provision_inMemory provision
    have hfails : record.username ∈ failing := by simpa using hopened
    rw [if_neg (hset.mp rfl), if_pos (Or.inr hfails)]
    exact ⟨husers'.trans husers, rfl, rfl⟩
  | done set provision =>
    obtain ⟨hset, husers⟩ := setPassword_inMemory set
    obtain ⟨hopened, husers'⟩ := provision_inMemory provision
    rw [if_neg (hset.mp rfl), if_neg (not_or.mpr ⟨hset.mp rfl, hopened.mp rfl⟩)]
    exact ⟨husers'.trans husers, rfl, rfl⟩

/-- What a record does to the users and to the counts, by its name and the users before it. -/
theorem Way.settled (h : Way (inMemory refusals failing) env record s calls events outcome t) :
    t.1.users = refusals.enrol s.1.users record.username ∧
      calls.countP Call.createsUser = [record.username].countP (refusals.joins s.1.users) ∧
      calls.countP Call.setsPassword
        = [record.username].countP (refusals.takesPassword (refusals.settledId? s.1.users)) ∧
      calls.countP Call.opensAccount
        = [record.username].countP
          (refusals.takesAccount failing (refusals.settledId? s.1.users)) := by
  simp only [List.countP_singleton]
  rcases h with ⟨hdriven⟩
  cases hdriven with
  | notCreated find create =>
    obtain ⟨hnone, hstays, husers⟩ := unsettled_of_notCreated find create
    refine ⟨husers, ?_, ?_, ?_⟩
    · rw [hstays]
      rfl
    · rw [Refusals.takesPassword, hnone]
      rfl
    · rw [Refusals.takesAccount, Refusals.takesPassword, hnone]
      rfl
  | @identified _ id _ _ _ _ _ _ _ entry finish =>
    obtain ⟨hid, rfl, husers⟩ := entry.settled
    obtain ⟨husers', hset, hopened⟩ := finish.settled
    obtain ⟨hmade, hnoPassword, hnoAccount⟩ := entry.countP
    refine ⟨husers'.trans husers, ?_, ?_, ?_⟩
    · rw [List.countP_append, hmade, finish.countP_createsUser]
      rfl
    · rw [List.countP_append, hnoPassword, hset, Refusals.takesPassword, hid]
      by_cases hrefused : id ∈ refusals.password <;> simp [hrefused]
    · rw [List.countP_append, hnoAccount, hopened, Refusals.takesAccount,
        Refusals.takesPassword, hid]
      by_cases hrefused : id ∈ refusals.password <;>
        by_cases hfails : record.username ∈ failing <;> simp [hrefused, hfails]

end

/-! ## A batch -/

/-- What a batch does to the users and to the counts, by its names and the users before it. -/
theorem Ways.settled {refusals : Refusals} {failing : List String} {env : Environment}
    {records : List Record} {s t : Identity.Memory × Chat.Memory} {blocks : List (List Call)}
    {events : List Event} {outcomes : List Outcome}
    (h : Ways (inMemory refusals failing) env s records blocks events outcomes t) :
    let names := records.map Record.username
    t.1.users = refusals.enrolAll s.1.users names ∧
      t.1.users.length = s.1.users.length + blocks.flatten.countP Call.createsUser ∧
      blocks.flatten.countP Call.setsPassword
        = names.countP (refusals.takesPassword (refusals.settledId? s.1.users)) ∧
      blocks.flatten.countP Call.opensAccount
        = names.countP (refusals.takesAccount failing (refusals.settledId? s.1.users)) := by
  induction h with
  | nil => exact ⟨rfl, rfl, rfl, rfl⟩
  | @cons record rest _ _ _ _ _ _ _ _ _ way _ ih =>
    obtain ⟨husers, hmade, hset, hopened⟩ := way.settled
    obtain ⟨hall, hlength, hpasswords, haccounts⟩ := ih
    rw [husers, refusals.settledId?_enrol] at hpasswords
    rw [husers, refusals.settledId?_enrol] at haccounts
    have hnames : (record :: rest).map Record.username
        = [record.username] ++ rest.map Record.username := rfl
    intro names
    refine ⟨?_, ?_, ?_, ?_⟩
    · rw [hall, husers]
      rfl
    · rw [hlength, husers, refusals.length_enrol, List.flatten_cons, List.countP_append, hmade,
        Nat.add_assoc]
    · rw [List.flatten_cons, List.countP_append, hset, hpasswords, ← List.countP_append, ← hnames]
    · rw [List.flatten_cons, List.countP_append, hopened, haccounts, ← List.countP_append,
        ← hnames]

/-! ## Runs -/

attribute [ext] Summary

/-- A run in closed form, by its names and the users before it. -/
structure Settled (refusals : Refusals) (failing : List String) (names : List String)
    (before : List (String × String))
    (run : Act.Done Event (Identity.Memory × Chat.Memory) Tally) : Prop where
  users : run.state.1.users = refusals.enrolAll before names
  usersCreated : run.state.1.users.length = before.length + run.value.summary.usersCreated
  passwordsSet :
    run.value.summary.passwordsSet
      = names.countP (refusals.takesPassword (refusals.settledId? before))
  accountsCreated :
    run.value.summary.accountsCreated
      = names.countP (refusals.takesAccount failing (refusals.settledId? before))
  failures : run.value.summary.accountsCreated + run.value.summary.failures = names.length
  processed : run.value.processed = names.length

namespace Settled

variable {refusals : Refusals} {failing names : List String} {before : List (String × String)}
  {run : Act.Done Event (Identity.Memory × Chat.Memory) Tally}

/-- The entries that a run adds are those of its names that join, each once, and they are what is
counted. -/
theorem added (h : Settled refusals failing names before run) :
    ∃ added : List (String × String),
      run.state.1.users = before ++ added ∧ (added.map Prod.fst).Nodup ∧
        (∀ name id, (name, id) ∈ added ↔
          name ∈ names ∧ refusals.joins before name ∧ id = newId name) ∧
        run.value.summary.usersCreated = added.length := by
  obtain ⟨added, hadded, hnodup, hmem⟩ := refusals.enrolAll_extends before names
  have husers : run.state.1.users = before ++ added := h.users.trans hadded
  refine ⟨added, husers, hnodup, hmem, ?_⟩
  have hmade := h.usersCreated
  rw [husers, List.length_append] at hmade
  omega

/-- Runs over the same users with the same names, in any order, count the same and leave the same
users. -/
theorem perm {others : List String}
    {run' : Act.Done Event (Identity.Memory × Chat.Memory) Tally}
    (h : Settled refusals failing names before run)
    (h' : Settled refusals failing others before run') (hperm : others.Perm names) :
    run'.value.summary = run.value.summary ∧ run'.value.processed = run.value.processed ∧
      run'.state.1.users.Perm run.state.1.users ∧
      ∀ name, run'.state.1.idOf? name = run.state.1.idOf? name := by
  have husers : run'.state.1.users.Perm run.state.1.users := by
    rw [h.users, h'.users]
    exact refusals.enrolAll_perm before names hperm
  have hset : run'.value.summary.passwordsSet = run.value.summary.passwordsSet := by
    rw [h.passwordsSet, h'.passwordsSet, hperm.countP_eq]
  have hopened : run'.value.summary.accountsCreated = run.value.summary.accountsCreated := by
    rw [h.accountsCreated, h'.accountsCreated, hperm.countP_eq]
  have hmade := h.usersCreated
  have hmade' := h'.usersCreated
  have hfailed := h.failures
  have hfailed' := h'.failures
  have hlength := husers.length_eq
  have hnames := hperm.length_eq
  refine ⟨Summary.ext (by omega) hset hopened (by omega), ?_, husers, fun name => ?_⟩
  · rw [h.processed, h'.processed, hnames]
  · rw [Identity.Memory.idOf?, Identity.Memory.idOf?, h.users, h'.users]
    exact refusals.lookup_enrolAll_perm before names hperm name

end Settled

theorem run_settled (refusals : Refusals) (failing : List String) (env : Environment)
    (records : List Record) (s : Identity.Memory × Chat.Memory) :
    Settled refusals failing (records.map Record.username) s.1.users
      ((inMemory refusals failing).run env records s) := by
  obtain ⟨blocks, _, hways, hsummary, hprocessed, _⟩ :=
    run_ways (inMemory refusals failing) env records s
  obtain ⟨husers, hlength, hset, hopened⟩ := hways.settled
  rw [Summary.zero_after] at hsummary
  have hnames : (records.map Record.username).length = records.length := List.length_map _
  constructor
  · exact husers
  · rw [hsummary]
    exact hlength
  · rw [hsummary]
    exact hset
  · rw [hsummary]
    exact hopened
  · rw [hsummary, hnames]
    exact hways.sum_opensAccount
  · rw [hprocessed, hnames]
    exact hways.length_outcomes

/-- The same batch once more, over what the first run left.  It makes no user, counts the same
otherwise, and leaves the users as they were. -/
theorem run_again (refusals : Refusals) (failing : List String) (env : Environment)
    (records : List Record) (s : Identity.Memory × Chat.Memory) :
    let first := (inMemory refusals failing).run env records s
    let second := (inMemory refusals failing).run env records first.state
    second.value.summary.usersCreated = 0 ∧
      second.value.summary.passwordsSet = first.value.summary.passwordsSet ∧
      second.value.summary.accountsCreated = first.value.summary.accountsCreated ∧
      second.value.summary.failures = first.value.summary.failures ∧
      second.value.processed = first.value.processed ∧
      second.state.1.users = first.state.1.users := by
  intro first second
  have hfirst : Settled refusals failing _ s.1.users first :=
    run_settled refusals failing env records s
  have hsecond : Settled refusals failing _ first.state.1.users second :=
    run_settled refusals failing env records first.state
  have husers : second.state.1.users = first.state.1.users := by
    rw [hsecond.users, hfirst.users, refusals.enrolAll_again]
  have hmade := hsecond.usersCreated
  have hset : second.value.summary.passwordsSet = first.value.summary.passwordsSet := by
    rw [hsecond.passwordsSet, hfirst.passwordsSet, hfirst.users,
      refusals.settledId?_enrolAll]
  have hopened : second.value.summary.accountsCreated = first.value.summary.accountsCreated := by
    rw [hsecond.accountsCreated, hfirst.accountsCreated, hfirst.users,
      refusals.settledId?_enrolAll]
  have hfailed := hfirst.failures
  have hfailed' := hsecond.failures
  rw [husers] at hmade
  refine ⟨by omega, hset, hopened, by omega, ?_, husers⟩
  rw [hsecond.processed, hfirst.processed]

/-- The users after a run, and the order of its records.  The users are those before it and, each
once, an entry for each name of the batch that had none and is not refused; these entries are what
is counted.  Records in another order come to the same counts and the same users. -/
theorem run_extends (refusals : Refusals) (failing : List String) (env : Environment)
    (records : List Record) (s : Identity.Memory × Chat.Memory) :
    let after := (inMemory refusals failing).run env records s
    (∃ added : List (String × String),
      after.state.1.users = s.1.users ++ added ∧
        (added.map Prod.fst).Nodup ∧
        (∀ name id, (name, id) ∈ added ↔
          name ∈ records.map Record.username ∧ s.1.idOf? name = none ∧
            name ∉ refusals.create ∧ id = newId name) ∧
        (∀ name id, after.state.1.idOf? name = some id ↔
          s.1.idOf? name = some id ∨ (name, id) ∈ added) ∧
        after.value.summary.usersCreated = added.length) ∧
      ∀ others : List Record, others.Perm records →
        let after' := (inMemory refusals failing).run env others s
        after'.value.summary = after.value.summary ∧
          after'.value.processed = after.value.processed ∧
          after'.state.1.users.Perm after.state.1.users ∧
          ∀ name, after'.state.1.idOf? name = after.state.1.idOf? name := by
  intro after
  have hafter : Settled refusals failing _ s.1.users after :=
    run_settled refusals failing env records s
  refine ⟨?_, ?_⟩
  · obtain ⟨added, husers, hnodup, hmem, hmade⟩ := hafter.added
    refine ⟨added, husers, hnodup, fun name id => ?_, fun name id => ?_, hmade⟩
    · rw [hmem, refusals.joins_iff, and_assoc]
      rfl
    · rw [hmem, Identity.Memory.idOf?, hafter.users, refusals.lookup_enrolAll_eq_some]
      rfl
  · intro others hperm after'
    have hafter' : Settled refusals failing _ s.1.users after' :=
      run_settled refusals failing env others s
    exact hafter.perm hafter' (hperm.map Record.username)

/-- Two users, one of them refused, in either order of their three records. -/
theorem run_extends_reordered :
    List.Perm (α := Record)
        [⟨"bob", ⟨"b"⟩⟩, ⟨"alice", ⟨"a"⟩⟩, ⟨"alice", ⟨"c"⟩⟩]
        [⟨"alice", ⟨"a"⟩⟩, ⟨"bob", ⟨"b"⟩⟩, ⟨"alice", ⟨"c"⟩⟩] ∧
      ((inMemory ⟨["bob"], []⟩ []).run .dev
          [⟨"bob", ⟨"b"⟩⟩, ⟨"alice", ⟨"a"⟩⟩, ⟨"alice", ⟨"c"⟩⟩] (⟨[], []⟩, [])).value.summary
        = ((inMemory ⟨["bob"], []⟩ []).run .dev
          [⟨"alice", ⟨"a"⟩⟩, ⟨"bob", ⟨"b"⟩⟩, ⟨"alice", ⟨"c"⟩⟩] (⟨[], []⟩, [])).value.summary :=
  have hperm := List.Perm.swap _ _ _
  ⟨hperm, ((run_extends ⟨["bob"], []⟩ [] .dev _ (⟨[], []⟩, [])).2 _ hperm).1⟩

end Servers

end Onboarding
