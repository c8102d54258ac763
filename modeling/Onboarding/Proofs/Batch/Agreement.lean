import Mathlib.Data.List.Forall2
import Onboarding.Batch
import Onboarding.Proofs.Acts

/-!
# Batches over related states

Servers that agree over related states on the four things that they are asked agree on whole runs.

* `AgreeOn` is such an agreement for records of the same users, where the passwords on the two sides
  need only be related.  One lemma for each function of a batch leads to `AgreeOn.run`.
* `Agree` is the case of the same records on both sides (`Agree.process`, `Agree.run`).
-/

namespace Onboarding

/-- Records of one user, with passwords that `S` relates. -/
structure Record.SameUser (S : Secret → Secret → Prop) (a b : Record) : Prop where
  username : a.username = b.username
  password : S a.password b.password

namespace Servers

variable {σ τ : Type}

/-- Servers over related states that agree on everything they are asked, where the passwords that
they are given are related by `S`. -/
structure AgreeOn (R : σ → τ → Prop) (S : Secret → Secret → Prop) (a : Servers σ)
    (b : Servers τ) : Prop where
  find : ∀ username, Act.Agrees R (a.identity.find username) (b.identity.find username)
  create : ∀ username, Act.Agrees R (a.identity.create username) (b.identity.create username)
  setPassword : ∀ id p q, S p q →
    Act.Agrees R (a.identity.setPassword id p) (b.identity.setPassword id q)
  provision : ∀ env username p q, S p q →
    Act.Agrees R (a.chat.provision env username p) (b.chat.provision env username q)

namespace AgreeOn

variable {R : σ → τ → Prop} {S : Secret → Secret → Prop} {a : Servers σ} {b : Servers τ}
  {record record' : Record}

theorem openChat (h : AgreeOn R S a b) (env : Environment) (hrecord : record.SameUser S record')
    (created : Bool) (counts : Summary) :
    Act.Agrees R (a.openChat env record created counts) (b.openChat env record' created counts) := by
  rw [Servers.openChat, Servers.openChat, hrecord.username]
  refine Act.Agrees.bind ((h.provision _ _ _ _ hrecord.password).reportAs _) fun answer => ?_
  cases answer with
  | error cause => exact Act.Agrees.pure R _
  | ok _ => exact (Act.Agrees.report R _).bind fun _ => Act.Agrees.pure R _

theorem passwordSet (h : AgreeOn R S a b) (env : Environment)
    (hrecord : record.SameUser S record') (created : Bool) (id : String) (counts : Summary) :
    Act.Agrees R (a.setPassword env record created id counts)
      (b.setPassword env record' created id counts) := by
  refine Act.Agrees.bind ((h.setPassword _ _ _ hrecord.password).reportAs _) fun answer => ?_
  cases answer with
  | error cause => exact Act.Agrees.pure R _
  | ok _ => exact h.openChat env hrecord created _

theorem drive (h : AgreeOn R S a b) (env : Environment) (hrecord : record.SameUser S record')
    (counts : Summary) :
    Act.Agrees R (a.drive env record counts) (b.drive env record' counts) := by
  rw [Servers.drive, Servers.drive, hrecord.username]
  refine Act.Agrees.bind ((h.find _).reportAs _) fun found => ?_
  cases found with
  | some user => exact h.passwordSet env hrecord false _ _
  | none =>
    refine Act.Agrees.bind ((h.create _).reportAs _) fun answer => ?_
    cases answer with
    | error cause => exact Act.Agrees.pure R _
    | ok id =>
      exact (Act.Agrees.report R _).bind fun _ => h.passwordSet env hrecord true _ _

theorem process (h : AgreeOn R S a b) (env : Environment) (hrecord : record.SameUser S record')
    (counts : Summary) :
    Act.Agrees R (a.process env record counts) (b.process env record' counts) := by
  rw [Servers.process, Servers.process, hrecord.username]
  refine Act.Agrees.bind (h.drive env hrecord counts) fun ended => ?_
  rcases ended with ⟨created | failure, counts⟩
  · exact Act.Agrees.pure R _
  · exact (Act.Agrees.report R _).bind fun _ => Act.Agrees.pure R _

theorem processAll (h : AgreeOn R S a b) (env : Environment) {records records' : List Record}
    (hrecords : List.Forall₂ (Record.SameUser S) records records') (tally : Tally) :
    Act.Agrees R (a.processAll env records tally) (b.processAll env records' tally) := by
  induction hrecords generalizing tally with
  | nil => exact Act.Agrees.pure R _
  | cons hrecord _ ih => exact (h.process env hrecord _).bind fun _ => ih _

/-- Whole runs agree where the servers do. -/
theorem run (h : AgreeOn R S a b) (env : Environment) {records records' : List Record}
    (hrecords : List.Forall₂ (Record.SameUser S) records records') :
    Act.Agrees R (a.run env records) (b.run env records') := by
  refine Act.Agrees.bind (h.processAll env hrecords .zero) fun tally => ?_
  exact (Act.Agrees.report R _).bind fun _ => Act.Agrees.pure R _

end AgreeOn

/-- Servers over related states that agree on everything they are asked. -/
structure Agree (R : σ → τ → Prop) (a : Servers σ) (b : Servers τ) : Prop where
  find : ∀ username, Act.Agrees R (a.identity.find username) (b.identity.find username)
  create : ∀ username, Act.Agrees R (a.identity.create username) (b.identity.create username)
  setPassword : ∀ id password,
    Act.Agrees R (a.identity.setPassword id password) (b.identity.setPassword id password)
  provision : ∀ env username password,
    Act.Agrees R (a.chat.provision env username password) (b.chat.provision env username password)

namespace Agree

variable {R : σ → τ → Prop} {a : Servers σ} {b : Servers τ}

/-- The case of equal passwords. -/
theorem agreeOn (h : Agree R a b) : AgreeOn R Eq a b where
  find := h.find
  create := h.create
  setPassword := by
    rintro id p _ rfl
    exact h.setPassword id p
  provision := by
    rintro env username p _ rfl
    exact h.provision env username p

theorem process (h : Agree R a b) (env : Environment) (record : Record) (counts : Summary) :
    Act.Agrees R (a.process env record counts) (b.process env record counts) :=
  h.agreeOn.process env ⟨rfl, rfl⟩ counts

/-- Whole runs agree where the servers do. -/
theorem run (h : Agree R a b) (env : Environment) (records : List Record) :
    Act.Agrees R (a.run env records) (b.run env records) :=
  h.agreeOn.run env (List.forall₂_same.mpr fun _ _ => ⟨rfl, rfl⟩)

end Agree

end Servers

end Onboarding
