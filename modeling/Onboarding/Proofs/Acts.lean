import Onboarding.Act

/-!
# Acts and relations on states

How relations on states are carried through acts, so that they have to be looked at only where
something is really done.

* Acts obey the laws of monads, so that acts in a row can be regrouped and their values rewritten by
  the lemmas of the library.
* `Agrees R x y`: from states related by `R` the two acts give the same value, make the same
  reports, and leave related states.  The combinators keep this.
* `Advances P x`: the act leaves a state that `P` relates to the one before it.  For a preorder this
  is a case of agreement (`Advances.agrees`, `Advances.of_agrees`), and is carried through the
  combinators as such.
-/

namespace Onboarding

namespace Act

variable {ε ε' σ τ α β : Type} {R : σ → τ → Prop}

/-! ## Laws -/

@[simp] theorem map_apply (f : α → β) (x : Act ε σ α) (s : σ) :
    (f <$> x) s = ⟨f (x s).value, (x s).reports, (x s).state⟩ := by
  have hreports : (x s).reports ++ [] = (x s).reports := List.append_nil _
  exact congrArg (Done.mk _ · _) hreports

instance : LawfulMonad (Act ε σ) :=
  have hid : ∀ {α : Type} (x : Act ε σ α), id <$> x = x := fun x => funext (map_apply id x)
  have hpure : ∀ {α β : Type} (a : α) (f : α → Act ε σ β), pure a >>= f = f a :=
    fun _ _ => rfl
  have hassoc : ∀ {α β γ : Type} (x : Act ε σ α) (f : α → Act ε σ β) (g : β → Act ε σ γ),
      x >>= f >>= g = x >>= fun a => f a >>= g := by
    intro α β γ x f g
    funext s
    simp only [bind_apply, List.append_assoc]
  LawfulMonad.mk' _ hid hpure hassoc

/-! ## Agreement -/

/-- From related states, the same value, the same reports, and related states again. -/
def Agrees (R : σ → τ → Prop) (x : Act ε σ α) (y : Act ε τ α) : Prop :=
  ∀ s t, R s t →
    (x s).value = (y t).value ∧ (x s).reports = (y t).reports ∧ R (x s).state (y t).state

theorem Agrees.pure (R : σ → τ → Prop) (a : α) :
    Agrees R (Pure.pure a : Act ε σ α) (Pure.pure a : Act ε τ α) :=
  fun _ _ h => ⟨rfl, rfl, h⟩

theorem Agrees.report (R : σ → τ → Prop) (e : ε) :
    Agrees R (Act.report e : Act ε σ Unit) (Act.report e : Act ε τ Unit) :=
  fun _ _ h => ⟨rfl, rfl, h⟩

theorem Agrees.reportAs {x : Act ε σ α} {y : Act ε τ α} (h : Agrees R x y) (f : ε → ε') :
    Agrees R (x.reportAs f) (y.reportAs f) := by
  intro s t hst
  obtain ⟨hvalue, hreports, hstate⟩ := h s t hst
  refine ⟨hvalue, ?_, hstate⟩
  rw [reportAs_apply, reportAs_apply, hreports]

theorem Agrees.bind {x : Act ε σ α} {y : Act ε τ α} {f : α → Act ε σ β} {g : α → Act ε τ β}
    (h : Agrees R x y) (hf : ∀ a, Agrees R (f a) (g a)) : Agrees R (x >>= f) (y >>= g) := by
  intro s t hst
  obtain ⟨hvalue, hreports, hstate⟩ := h s t hst
  have hnext := hf (y t).value _ _ hstate
  rw [bind_apply, bind_apply, hvalue, hreports]
  refine ⟨hnext.1, ?_, hnext.2.2⟩
  exact congrArg ((y t).reports ++ ·) hnext.2.1

/-! ## Advance -/

variable {P : σ → σ → Prop}

/-- Every state is related to the one after the act. -/
def Advances (P : σ → σ → Prop) (x : Act ε σ α) : Prop :=
  ∀ s, P s (x s).state

/-- The same state on both sides, and one that `P` leads to from `start`.  An act that agrees with
itself over this relation goes along `P`. -/
def From (P : σ → σ → Prop) (start : σ) (s t : σ) : Prop :=
  s = t ∧ P start s

theorem Advances.agrees (htrans : ∀ s t u, P s t → P t u → P s u) {x : Act ε σ α}
    (h : Advances P x) (start : σ) : Agrees (From P start) x x := by
  rintro s t ⟨rfl, hstart⟩
  exact ⟨rfl, rfl, rfl, htrans _ _ _ hstart (h s)⟩

theorem Advances.of_agrees (hrefl : ∀ s, P s s) {x : Act ε σ α}
    (h : ∀ start, Agrees (From P start) x x) : Advances P x := by
  intro s
  obtain ⟨_, _, _, hstate⟩ := h s s s ⟨rfl, hrefl s⟩
  exact hstate

theorem Advances.of_eq {x : Act ε σ α} (h : Advances P x) {s t : σ} {a : α} {reports : List ε}
    (heq : x s = ⟨a, reports, t⟩) : P s t := by
  have hs := h s
  rwa [heq] at hs

end Act

end Onboarding
