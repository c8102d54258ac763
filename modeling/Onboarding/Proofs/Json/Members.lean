import Onboarding.Json.Basic

/-!
# Members by name

What the members of an object give for one name, said of the object as it was read, where a name
need not be text.

* `exists_namedMembers_iff`: members can be named when all names are text.
* `valuesOf_namedMembers`: naming them changes none of their values.
* `only?_eq_some_iff`: a name has at most one value.
-/

namespace Onboarding

namespace Json

/-- The values of the members of one name, in order, whatever the other names are. -/
def valuesNamed (name : String) (members : List (Option String × Json)) : List Json :=
  (members.filter (fun m => m.1 == some name)).map (·.2)

variable {members : List (Option String × Json)} {named : List (String × Json)} {name : String}

/-- Members can be named when all names are text. -/
theorem exists_namedMembers_iff :
    (∃ named, namedMembers members = some named) ↔ ∀ m ∈ members, m.1.isSome := by
  induction members with
  | nil => simp [namedMembers]
  | cons m rest ih =>
    obtain ⟨key, value⟩ := m
    rw [List.forall_mem_cons, ← ih]
    cases key with
    | none => simp [namedMembers]
    | some key =>
      rw [namedMembers]
      constructor
      · rintro ⟨named, hnamed⟩
        obtain ⟨more, hmore, -⟩ := Option.map_eq_some_iff.mp hnamed
        exact ⟨rfl, more, hmore⟩
      · rintro ⟨-, more, hmore⟩
        exact ⟨(key, value) :: more, congrArg (Option.map _) hmore⟩

/-- Named members have the values that they had before. -/
theorem valuesOf_namedMembers (h : namedMembers members = some named) (name : String) :
    valuesOf name named = valuesNamed name members := by
  induction members generalizing named with
  | nil =>
    cases h
    rfl
  | cons m rest ih =>
    obtain ⟨key, value⟩ := m
    cases key with
    | none => cases h
    | some key =>
      obtain ⟨more, hmore, rfl⟩ := Option.map_eq_some_iff.mp h
      have hrest := ih hmore
      rw [valuesOf, valuesNamed] at hrest ⊢
      by_cases hkey : key = name
      · simp [hkey, hrest]
      · simp [hkey, hrest]

/-- The value of a name that is there once or not at all. -/
theorem only?_eq_some_iff {value : Option Json} :
    only? name named = some value ↔ valuesOf name named = value.toList := by
  rw [only?]
  match h : valuesOf name named, value with
  | [], none => simp
  | [], some _ => simp
  | [_], none => simp
  | [_], some _ => simp
  | _ :: _ :: _, none => simp
  | _ :: _ :: _, some _ => simp

end Json

end Onboarding
