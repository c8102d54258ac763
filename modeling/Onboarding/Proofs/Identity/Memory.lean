import Onboarding.Identity.Memory

/-!
# Users in memory, name by name

What a batch makes of the list of users, as a function of the names alone.  `enrol` is one name and
`enrolAll` are names in order; they add a user where there is none and none is refused.

* What a name comes to.  `settledId?` is the id that a name has, or would get.  Enrolling names
  changes it for no name (`settledId?_enrolAll`), so that a batch can be judged by the users before
  it.
* The users after a batch.  `lookup_enrolAll` gives the id of each name, `enrolAll_extends` the
  entries that are added, and `enrolAll_again` says that the same names add no more.
* The order.  `enrolAll_perm`: names in another order add the same entries.
-/

namespace Onboarding

/-- A user without an id gets one behind the others. -/
theorem Identity.Memory.users_insert_of_new {m : Memory} {username : String}
    (hnew : m.users.lookup username = none) (id : String) :
    (m.insert username id).users = m.users ++ [(username, id)] := by
  have hkeep : m.users.filter (·.1 != username) = m.users := by
    rw [List.filter_eq_self]
    intro entry hentry
    have hother := List.lookup_eq_none_iff.mp hnew entry hentry
    rwa [bne_comm] at hother
  rw [insert, hkeep]

namespace Identity.Memory.Refusals

variable (r : Refusals) (users : List (String × String)) (names : List String)

/-! ## One name -/

/-- Whether a name gets a user: it has none, and is not refused. -/
def joins (name : String) : Bool :=
  (users.lookup name).isNone && !r.create.contains name

/-- The id that a name has, or gets as a new user. -/
def settledId? (name : String) : Option String :=
  users.lookup name <|> if r.create.contains name then none else some (newId name)

/-- The users with a name that may be new. -/
def enrol (name : String) : List (String × String) :=
  if r.joins users name then users ++ [(name, newId name)] else users

theorem joins_iff (name : String) :
    r.joins users name ↔ users.lookup name = none ∧ name ∉ r.create := by
  simp [joins]

theorem settledId?_of_joins {name : String} (h : r.joins users name) :
    r.settledId? users name = some (newId name) := by
  obtain ⟨hnone, hfree⟩ := (r.joins_iff users name).mp h
  simp [settledId?, hnone, hfree]

/-- A name that gets no user keeps what it has. -/
theorem settledId?_of_not_joins {name : String} (h : ¬ r.joins users name) :
    r.settledId? users name = users.lookup name := by
  rw [joins_iff, not_and, Classical.not_not] at h
  cases hlookup : users.lookup name with
  | some id => simp [settledId?, hlookup]
  | none => simp [settledId?, hlookup, h hlookup]

theorem length_enrol (name : String) :
    (r.enrol users name).length = users.length + [name].countP (r.joins users) := by
  rw [List.countP_singleton, enrol]
  split
  · exact List.length_append
  · rfl

/-- Enrolling a name settles its id and leaves all others as they are. -/
theorem lookup_enrol (name other : String) :
    (r.enrol users name).lookup other
      = if other = name then r.settledId? users name else users.lookup other := by
  by_cases hjoins : r.joins users name
  · obtain ⟨hnone, -⟩ := (r.joins_iff users name).mp hjoins
    rw [enrol, if_pos hjoins, List.lookup_append, r.settledId?_of_joins users hjoins]
    by_cases hother : other = name
    · simp [hother, hnone]
    · simp [hother, List.lookup_cons, beq_false_of_ne hother]
  · rw [enrol, if_neg hjoins, r.settledId?_of_not_joins users hjoins]
    by_cases hother : other = name
    · rw [if_pos hother, hother]
    · rw [if_neg hother]

/-- Enrolling a name changes what no name comes to. -/
theorem settledId?_enrol (name : String) :
    r.settledId? (r.enrol users name) = r.settledId? users := by
  funext other
  rw [settledId?, lookup_enrol]
  by_cases hother : other = name
  · -- An id that is settled stays settled.
    subst hother
    cases hlookup : users.lookup other <;> simp [settledId?, hlookup]
  · rw [if_neg hother, ← settledId?]

/-- A name that was enrolled does not join again, and no other name is kept from joining. -/
theorem joins_enrol (name other : String) :
    r.joins (r.enrol users name) other ↔ other ≠ name ∧ r.joins users other := by
  rw [joins_iff, joins_iff, lookup_enrol]
  by_cases hother : other = name
  · subst hother
    simp [settledId?]
  · simp [hother]

/-! ## Names in order -/

/-- The users with names that may be new, in order. -/
def enrolAll (users : List (String × String)) (names : List String) : List (String × String) :=
  names.foldl r.enrol users

theorem settledId?_enrolAll : r.settledId? (r.enrolAll users names) = r.settledId? users := by
  induction names generalizing users with
  | nil => rfl
  | cons name rest ih =>
    rw [enrolAll, List.foldl_cons, ← enrolAll, ih, settledId?_enrol]

/-- A batch settles the ids of its names and leaves all others as they are. -/
theorem lookup_enrolAll (other : String) :
    (r.enrolAll users names).lookup other
      = if other ∈ names then r.settledId? users other else users.lookup other := by
  induction names generalizing users with
  | nil => rfl
  | cons name rest ih =>
    rw [enrolAll, List.foldl_cons, ← enrolAll, ih, settledId?_enrol, lookup_enrol]
    by_cases hrest : other ∈ rest
    · simp [hrest]
    · by_cases hother : other = name
      · simp [hother]
      · simp [hrest, hother]

/-- After a batch a name has the id that it had, or that of a new user when it is one of the batch
and joins. -/
theorem lookup_enrolAll_eq_some (name id : String) :
    (r.enrolAll users names).lookup name = some id ↔
      users.lookup name = some id ∨ name ∈ names ∧ r.joins users name ∧ id = newId name := by
  rw [lookup_enrolAll]
  by_cases hjoins : r.joins users name
  · obtain ⟨hnone, -⟩ := (r.joins_iff users name).mp hjoins
    by_cases hname : name ∈ names
    · simp [hname, hjoins, hnone, r.settledId?_of_joins users hjoins, eq_comm]
    · simp [hname, hnone]
  · rw [r.settledId?_of_not_joins users hjoins, ite_self]
    simp [hjoins]

/-- The names of a batch do not join again. -/
theorem not_joins_enrolAll {name : String} (h : name ∈ names) :
    ¬ r.joins (r.enrolAll users names) name := by
  rw [joins_iff, lookup_enrolAll, if_pos h]
  rintro ⟨hnone, hfree⟩
  simp [settledId?, hfree] at hnone

/-- Names that do not join change nothing. -/
theorem enrolAll_of_not_joins (h : ∀ name ∈ names, ¬ r.joins users name) :
    r.enrolAll users names = users := by
  induction names with
  | nil => rfl
  | cons name rest ih =>
    have hname : r.enrol users name = users := if_neg (h name List.mem_cons_self)
    rw [enrolAll, List.foldl_cons, ← enrolAll, hname]
    exact ih fun other hother => h other (List.mem_cons_of_mem _ hother)

/-- The same names once more change nothing. -/
theorem enrolAll_again : r.enrolAll (r.enrolAll users names) names = r.enrolAll users names :=
  r.enrolAll_of_not_joins _ names fun _ h => r.not_joins_enrolAll users names h

/-- The entries that a batch adds are those of its names that join, each once. -/
theorem enrolAll_extends :
    ∃ added : List (String × String), r.enrolAll users names = users ++ added ∧
      (added.map Prod.fst).Nodup ∧
      ∀ name id, (name, id) ∈ added ↔ name ∈ names ∧ r.joins users name ∧ id = newId name := by
  induction names generalizing users with
  | nil => exact ⟨[], (List.append_nil _).symm, List.nodup_nil, by simp⟩
  | cons name rest ih =>
    obtain ⟨added, hadded, hnodup, hmem⟩ := ih (r.enrol users name)
    rw [enrolAll, List.foldl_cons, ← enrolAll, hadded]
    by_cases hjoins : r.joins users name
    · refine ⟨(name, newId name) :: added, ?_, ?_, ?_⟩
      · rw [enrol, if_pos hjoins, List.append_assoc]
        rfl
      · rw [List.map_cons, List.nodup_cons]
        refine ⟨fun hname => ?_, hnodup⟩
        obtain ⟨⟨_, id⟩, hentry, rfl⟩ := List.mem_map.mp hname
        exact ((r.joins_enrol users _ _).mp ((hmem _ _).mp hentry).2.1).1 rfl
      · intro other id
        rw [List.mem_cons, hmem, joins_enrol, List.mem_cons, Prod.mk.injEq]
        by_cases hother : other = name
        · subst hother
          simp [hjoins]
        · simp [hother]
    · refine ⟨added, ?_, hnodup, ?_⟩
      · rw [enrol, if_neg hjoins]
      · intro other id
        rw [hmem, joins_enrol, List.mem_cons]
        by_cases hother : other = name
        · subst hother
          simp [hjoins]
        · simp [hother]

/-- Names in another order add the same entries. -/
theorem enrolAll_perm {others : List String} (h : others.Perm names) :
    (r.enrolAll users others).Perm (r.enrolAll users names) := by
  obtain ⟨added, hadded, hnodup, hmem⟩ := r.enrolAll_extends users names
  obtain ⟨later, hlater, hnodup', hmem'⟩ := r.enrolAll_extends users others
  have hdistinct : ∀ {entries : List (String × String)}, (entries.map Prod.fst).Nodup →
      entries.Nodup :=
    fun h => List.Pairwise.of_map Prod.fst (fun _ _ hne heq => hne (congrArg Prod.fst heq)) h
  rw [hadded, hlater]
  refine List.Perm.append_left users ?_
  refine (List.perm_ext_iff_of_nodup (hdistinct hnodup') (hdistinct hnodup)).mpr ?_
  rintro ⟨name, id⟩
  rw [hmem, hmem', h.mem_iff]

theorem lookup_enrolAll_perm {others : List String} (h : others.Perm names) (name : String) :
    (r.enrolAll users others).lookup name = (r.enrolAll users names).lookup name := by
  simp only [lookup_enrolAll, h.mem_iff]

end Identity.Memory.Refusals

end Onboarding
