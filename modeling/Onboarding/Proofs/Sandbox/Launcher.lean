import Onboarding.Proofs.Run.Traffic
import Onboarding.Sandbox.Launcher

/-!
# Runs in a sandbox

What a run leaves as it was when its programs are started in a sandbox, whatever the scripts in the
tree do.

* Files.  A script that the launcher finds is there for the host too (`has_of_isFile`), and what the
  host does not see it cannot read (`read_of_not_has`).
* Programs.  A program that does not start changes nothing (`start_of_error`), and one that does
  changes the tree alone (`start_keeps`); both are read off `start_cases`.
* Runs.  The same holds of a whole run (`run_keeps`), since it reaches the sandbox by starting
  programs and in no other way.
-/

namespace Onboarding

namespace Sandbox

variable {s : Sandbox} {executable path : String}

/-! ## Files -/

theorem has_of_isFile (h : launcher.isFile path s = true) :
    (s.host executable).has path = true := by
  have hfile : s.files.isFile s.here path = true := h
  show s.files.exists? s.here path = true
  rw [Files.isFile] at hfile
  rw [Files.exists?]
  cases hfind : s.files.find s.here path with
  | ok _ => rfl
  | error _ => simp [hfind] at hfile

theorem read_of_not_has (h : (s.host executable).has path = false) :
    ∃ cause, (s.host executable).read path = .error cause := by
  have hnot : s.files.exists? s.here path = false := h
  show ∃ cause, s.files.read s.here path = .error cause
  rw [Files.exists?] at hnot
  cases hfind : s.files.find s.here path with
  | ok _ => simp [hfind] at hnot
  | error cause => exact ⟨cause, by rw [Files.read, hfind]⟩

/-! ## Programs -/

/-- The same working directory and the same variables. -/
def Keeps (s t : Sandbox) : Prop :=
  t.here = s.here ∧ t.bindings = s.bindings

theorem Keeps.refl (s : Sandbox) : Keeps s s :=
  ⟨rfl, rfl⟩

theorem Keeps.trans (s t u : Sandbox) (h : Keeps s t) (h' : Keeps t u) : Keeps s u :=
  ⟨h'.1.trans h.1, h'.2.trans h.2⟩

/-- A program does not start, and nothing changes, or it changes the tree alone. -/
theorem start_cases (i : Invocation) (s : Sandbox) :
    (∃ cause, s.start i = (.error cause, s)) ∨
      ∃ finished files, s.start i = (.ok finished, { s with files := files }) := by
  rw [start]
  split
  · exact Or.inl ⟨.nulInArgument, rfl⟩
  · cases s.executable i.program with
    | error cause => exact Or.inl ⟨cause, rfl⟩
    | ok found => exact Or.inr ⟨_, _, rfl⟩

theorem start_of_error {i : Invocation} {cause : SystemError} (h : (s.start i).1 = .error cause) :
    (s.start i).2 = s := by
  rcases start_cases i s with ⟨_, hstart⟩ | ⟨_, _, hstart⟩
  · rw [hstart]
  · rw [hstart] at h
    cases h

theorem start_keeps (i : Invocation) (s : Sandbox) : Keeps s (s.start i).2 := by
  rcases start_cases i s with ⟨_, hstart⟩ | ⟨_, _, hstart⟩
  · rw [hstart]
    exact Keeps.refl s
  · rw [hstart]
    exact ⟨rfl, rfl⟩

theorem launcher_agree (start : Sandbox) :
    Launcher.Agree (Act.From Keeps start) launcher launcher where
  isFile := by
    rintro path s t ⟨rfl, _⟩
    rfl
  start i :=
    Act.Advances.agrees Keeps.trans (fun s => start_keeps i s) start

/-! ## Runs -/

/-- A run changes the tree alone, when its requests do. -/
theorem run_keeps {send : Http.Transport Sandbox}
    (hsend : ∀ r, Act.Advances Keeps (send r)) (o : CommandLine.Options) (h : Host) :
    Act.Advances Keeps (o.run h launcher send) :=
  .of_agrees Keeps.refl fun start =>
    o.run_agrees (launcher_agree start) (fun r => (hsend r).agrees Keeps.trans start) h

end Sandbox

end Onboarding
