/-!
# Acts

An act goes from one state to the next, gives a value, and reports what happened on the way.
`Act ε σ α` has reports of type `ε`, states of type `σ` and a value of type `α`; acts in a row
put their reports one after the other.
-/

namespace Onboarding

/-- What an act comes to. -/
structure Act.Done (ε σ α : Type) where
  value : α
  reports : List ε
  state : σ

/-- A change of state that gives a value and reports on itself. -/
def Act (ε σ α : Type) : Type :=
  σ → Act.Done ε σ α

namespace Act

variable {ε ε' σ τ α β : Type}

/-- No change, no report. -/
def done (a : α) : Act ε σ α :=
  fun s => ⟨a, [], s⟩

/-- An act, and then the one that its value leads to. -/
def andThen (x : Act ε σ α) (f : α → Act ε σ β) : Act ε σ β :=
  fun s =>
    let first := x s
    let second := f first.value first.state
    ⟨second.value, first.reports ++ second.reports, second.state⟩

instance : Monad (Act ε σ) where
  pure := done
  bind := andThen

/-- A report. -/
def report (e : ε) : Act ε σ Unit :=
  fun s => ⟨(), [e], s⟩

/-- The state, unchanged. -/
def get : Act ε σ σ :=
  fun s => ⟨s, [], s⟩

/-- A new state in place of the old one. -/
def set (s : σ) : Act ε σ Unit :=
  fun _ => ⟨(), [], s⟩

/-- A value that the state gives together with the next state. -/
def ofFunction (f : σ → α × σ) : Act ε σ α :=
  fun s => ⟨(f s).1, [], (f s).2⟩

/-- The same act with each report put in other words. -/
def reportAs (f : ε → ε') (x : Act ε σ α) : Act ε' σ α :=
  fun s =>
    let r := x s
    ⟨r.value, r.reports.map f, r.state⟩

/-- An act on a part of a larger state. -/
def within (get : τ → σ) (set : σ → τ → τ) (x : Act ε σ α) : Act ε τ α :=
  fun t =>
    let r := x (get t)
    ⟨r.value, r.reports, set r.state t⟩

@[simp] theorem pure_apply (a : α) (s : σ) : (pure a : Act ε σ α) s = ⟨a, [], s⟩ := rfl

@[simp] theorem bind_apply (x : Act ε σ α) (f : α → Act ε σ β) (s : σ) :
    (x >>= f) s =
      ⟨(f (x s).value (x s).state).value,
        (x s).reports ++ (f (x s).value (x s).state).reports,
        (f (x s).value (x s).state).state⟩ := rfl

@[simp] theorem report_apply (e : ε) (s : σ) :
    (report e : Act ε σ Unit) s = ⟨(), [e], s⟩ := rfl

@[simp] theorem reportAs_apply (f : ε → ε') (x : Act ε σ α) (s : σ) :
    x.reportAs f s = ⟨(x s).value, (x s).reports.map f, (x s).state⟩ := rfl

end Act

end Onboarding
