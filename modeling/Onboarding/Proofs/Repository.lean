import Onboarding.Proofs.Path
import Onboarding.Repository

/-!
# The repository of a program

Which places of a program give a repository: those with three steps below the root of the file
system, which are then taken away.
-/

namespace Onboarding

namespace Repository

open Onboarding.Path (Proper ancestor?_cases components components_join depth join)

theorem ofExecutable?_eq (executable : String) :
    ofExecutable? executable = Path.ancestor? 3 executable := rfl

/-- A place of three steps more than a path gives a path with the same steps. -/
theorem ofExecutable?_of_components {executable root : String} {last : List Path.Component}
    (hsteps : components executable = components root ++ last) (hlength : last.length = 3)
    (hlast : .root ∉ last) :
    ∃ found, ofExecutable? executable = some found ∧ components found = components root := by
  have hcount : last.countP (· ≠ .root) = 3 := by
    rw [List.countP_eq_length.mpr, hlength]
    intro c hc
    have hne : c ≠ .root := by
      rintro rfl
      exact hlast hc
    simpa using hne
  have hdepth : 3 ≤ depth executable := by
    rw [depth, hsteps, List.countP_append, hcount]
    exact Nat.le_add_left 3 _
  rcases ancestor?_cases 3 executable with ⟨-, hless⟩ | ⟨found, taken, hfound, htaken, -, hcut⟩
  · omega
  · refine ⟨found, hfound, ?_⟩
    rw [hcut] at hsteps
    exact (List.append_inj' hsteps (htaken.trans hlength.symm)).1

/-- Which places of a program give a repository, and which one.  There is one exactly when the place
has at least three steps below the root of the file system, and its steps are then those of the
place without the last three.  So the repository is found again from a program that is three names
below it, however it was written. -/
theorem ofExecutable?_takes_three :
    (∀ executable, (ofExecutable? executable).isSome ↔ 3 ≤ depth executable) ∧
      (∀ executable root, ofExecutable? executable = some root →
        ∃ last, last.length = 3 ∧ components executable = components root ++ last) ∧
      ∀ root a b c, Proper a.toList → Proper b.toList → Proper c.toList →
        ∃ found, ofExecutable? (join (join (join root a) b) c) = some found ∧
          components found = components root := by
  refine ⟨fun executable => ?_, fun executable root h => ?_, fun root a b c ha hb hc => ?_⟩
  · rw [ofExecutable?_eq]
    rcases ancestor?_cases 3 executable with ⟨hnone, hless⟩ | ⟨found, _, hfound, -, hle, -⟩
    · rw [hnone]
      exact iff_of_false nofun (Nat.not_le_of_lt hless)
    · rw [hfound]
      exact iff_of_true rfl hle
  · rw [ofExecutable?_eq] at h
    rcases ancestor?_cases 3 executable with ⟨hnone, -⟩ | ⟨found, last, hfound, hlength, -, hsteps⟩
    · rw [hnone] at h
      cases h
    · rw [hfound] at h
      cases h
      exact ⟨last, hlength, hsteps⟩
  · have hsteps : components (join (join (join root a) b) c)
        = components root ++ [.normal a.toList, .normal b.toList, .normal c.toList] := by
      rw [components_join _ hc, components_join _ hb, components_join _ ha, List.append_assoc,
        List.append_assoc]
      rfl
    exact ofExecutable?_of_components hsteps rfl (by simp)

theorem ofExecutable?_takes_three_dotted :
    join (join (join "./x//./../" "target") "release") "run" = "./x//./../target/release/run" ∧
      (∃ found, ofExecutable? "./x//./../target/release/run" = some found ∧
        components found = [.current, .normal ['x'], .parent]) ∧
      ofExecutable? "./x//./../target/release/run" = some "./x//./.." ∧
      (∃ last, last.length = 3 ∧ components "./x//./../target/release/run"
        = components "./x//./.." ++ last) ∧
      ofExecutable? "//target/./release/" = none := by
  have hjoin : join (join (join "./x//./../" "target") "release") "run"
      = "./x//./../target/release/run" := by decide +kernel
  have hroot : components "./x//./../" = [.current, .normal ['x'], .parent] := by decide +kernel
  obtain ⟨found, hfound, hsteps⟩ := ofExecutable?_takes_three.2.2 "./x//./../" "target" "release" "run"
    ⟨by decide, by decide⟩ ⟨by decide, by decide⟩ ⟨by decide, by decide⟩
  rw [hjoin] at hfound
  have hcut : ofExecutable? "./x//./../target/release/run" = some "./x//./.." := by decide +kernel
  exact ⟨hjoin, ⟨found, hfound, hroot ▸ hsteps⟩, hcut,
    ofExecutable?_takes_three.2.1 _ _ hcut, by decide +kernel⟩

end Repository

end Onboarding
