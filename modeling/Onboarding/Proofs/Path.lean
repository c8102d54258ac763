import Mathlib.Data.String.Basic
import Onboarding.Path
import Onboarding.Proofs.Text.Split

/-!
# The steps of a path

What cutting and joining paths do to the steps that they stand for, however the paths are written.

* Steps.  `steps` are what pieces of text stand for, and `components_absolute` and
  `components_relative` read the steps of a path off its pieces.
* Cutting.  A path without its last step is written with the pieces before that step
  (`steps_dropIdle`, `exists_last_step`), so that `parent?` takes one step away and fails at the
  root (`parent?_cases`).  `ancestor?_cases` is what this comes to after several times.
* Joining.  A name that is put behind a path is one more step (`components_join`).
-/

namespace Onboarding

namespace Path

open Split (joined)

/-! ## Steps -/

/-- The steps that pieces stand for; the first may be a leading dot when `leading`. -/
def steps (leading : Bool) : List (List Char) → List Component
  | [] => []
  | first :: rest => (component? leading first).toList ++ rest.filterMap (component? false)

theorem steps_false (pieces : List (List Char)) :
    steps false pieces = pieces.filterMap (component? false) := by
  cases pieces with
  | nil => rfl
  | cons first rest => cases hfirst : component? false first <;> simp [steps, hfirst]

theorem steps_cons (leading : Bool) (first : List Char) (rest : List (List Char)) :
    steps leading (first :: rest) = (component? leading first).toList ++ steps false rest := by
  rw [steps_false]
  rfl

theorem components_absolute (body : List Char) :
    components (String.ofList ('/' :: body)) = .root :: steps false (pieces body) := by
  rw [components, String.toList_ofList, steps_false]
  rfl

theorem components_relative {text : List Char} (h : text.head? ≠ some '/') :
    components (String.ofList text) = steps true (pieces text) := by
  rw [components, String.toList_ofList]
  split
  · exact absurd rfl h
  · cases pieces text <;> rfl

example : components "./a//b/./../c/"
    = [.current, .normal ['a'], .normal ['b'], .parent, .normal ['c']] := by decide +kernel

/-- No piece stands for the root. -/
theorem component?_ne_root {leading : Bool} {piece : List Char} {c : Component}
    (h : component? leading piece = some c) : c ≠ .root := by
  unfold component? at h
  split_ifs at h <;> cases h <;> nofun

theorem root_not_mem_steps (leading : Bool) (pieces : List (List Char)) :
    .root ∉ steps leading pieces := by
  induction pieces generalizing leading with
  | nil => exact List.not_mem_nil
  | cons first rest ih =>
    rw [steps_cons, List.mem_append, not_or]
    refine ⟨fun hroot => ?_, ih false⟩
    exact component?_ne_root (Option.mem_toList.mp hroot) rfl

/-- No piece of a path holds a slash. -/
theorem slash_not_mem_piece {body piece : List Char} (h : piece ∈ pieces body) : '/' ∉ piece :=
  fun hslash => (Split.not_sep_of_mem h '/' hslash).2 rfl

/-- Pieces of a path that are put together stand for the same steps. -/
theorem steps_pieces_joined (leading : Bool) {all : List (List Char)}
    (h : ∀ piece ∈ all, '/' ∉ piece) :
    steps leading (pieces (joined '/' all)) = steps leading all := by
  by_cases hne : all = []
  · subst hne
    cases leading <;> rfl
  · rw [pieces, Split.pieces_joined hne h]

/-! ## Cutting -/

theorem dropIdle_cons_nil {leading : Bool} {piece : List Char} {rest : List (List Char)}
    (h : dropIdle false rest = []) :
    dropIdle leading (piece :: rest)
      = if (component? leading piece).isSome then [piece] else [] := by
  rw [dropIdle, h]

theorem dropIdle_cons {leading : Bool} {piece : List Char} {rest : List (List Char)}
    (h : dropIdle false rest ≠ []) :
    dropIdle leading (piece :: rest) = piece :: dropIdle false rest := by
  rw [dropIdle]
  split
  · next hnil => exact absurd hnil h
  · rfl

/-- Only pieces at the end are dropped. -/
theorem prefix_dropIdle (leading : Bool) (pieces : List (List Char)) :
    dropIdle leading pieces <+: pieces := by
  induction pieces generalizing leading with
  | nil => exact List.prefix_refl _
  | cons piece rest ih =>
    by_cases hrest : dropIdle false rest = []
    · rw [dropIdle_cons_nil hrest]
      split
      · exact List.prefix_append [piece] rest
      · exact List.nil_prefix
    · rw [dropIdle_cons hrest]
      exact List.cons_prefix_cons.mpr ⟨rfl, ih false⟩

/-- No step is dropped. -/
theorem steps_dropIdle (leading : Bool) (pieces : List (List Char)) :
    steps leading (dropIdle leading pieces) = steps leading pieces := by
  induction pieces generalizing leading with
  | nil => rfl
  | cons piece rest ih =>
    have htail := ih false
    by_cases hrest : dropIdle false rest = []
    · rw [hrest] at htail
      rw [dropIdle_cons_nil hrest, steps_cons, ← htail]
      split
      · rfl
      · next hnone =>
        rw [Option.not_isSome_iff_eq_none.mp hnone]
        rfl
    · rw [dropIdle_cons hrest, steps_cons, steps_cons, htail]

/-- What is kept ends in a step. -/
theorem exists_last_step {leading : Bool} {pieces : List (List Char)}
    (h : dropIdle leading pieces ≠ []) :
    ∃ c, steps leading pieces = steps leading (dropIdle leading pieces).dropLast ++ [c] := by
  induction pieces generalizing leading with
  | nil => exact absurd rfl h
  | cons piece rest ih =>
    by_cases hrest : dropIdle false rest = []
    · have htail := steps_dropIdle false rest
      rw [hrest] at htail
      rw [dropIdle_cons_nil hrest] at h ⊢
      split at h
      · next hsome =>
        obtain ⟨c, hc⟩ := Option.isSome_iff_exists.mp hsome
        refine ⟨c, ?_⟩
        rw [if_pos hsome, steps_cons, ← htail, hc]
        rfl
      · exact absurd rfl h
    · obtain ⟨c, hc⟩ := ih hrest
      refine ⟨c, ?_⟩
      rw [dropIdle_cons hrest, List.dropLast_cons_of_ne_nil hrest, steps_cons, steps_cons, hc,
        List.append_assoc]

/-- The pieces of a path without its last step. -/
def above (leading : Bool) (pieces : List (List Char)) : List (List Char) :=
  dropIdle leading (dropIdle leading pieces).dropLast

theorem prefix_above (leading : Bool) (pieces : List (List Char)) : above leading pieces <+: pieces :=
  ((prefix_dropIdle leading _).trans (List.dropLast_prefix _)).trans (prefix_dropIdle leading pieces)

/-- The steps that they stand for. -/
theorem steps_above {leading : Bool} {body : List Char}
    (h : dropIdle leading (pieces body) ≠ []) :
    ∃ c ≠ .root, steps leading (pieces body)
      = steps leading (pieces (joined '/' (above leading (pieces body)))) ++ [c] := by
  obtain ⟨c, hc⟩ := exists_last_step h
  refine ⟨c, ?_, ?_⟩
  · rintro rfl
    refine root_not_mem_steps leading (pieces body) ?_
    rw [hc]
    exact List.mem_append_right _ List.mem_cons_self
  · rw [hc, steps_pieces_joined, above, steps_dropIdle]
    intro piece hpiece
    exact slash_not_mem_piece ((prefix_above leading _).subset hpiece)

/-- What is left of a relative path is relative. -/
theorem head?_joined_above {leading : Bool} {text : List Char} (h : text.head? ≠ some '/') :
    (joined '/' (above leading (pieces text))).head? ≠ some '/' := by
  have hprefix : joined '/' (above leading (pieces text)) <+: joined '/' (pieces text) :=
    Split.prefix_joined (prefix_above leading (pieces text))
  rw [pieces, Split.joined_pieces] at hprefix
  obtain ⟨more, hmore⟩ := hprefix
  intro hhead
  refine h ?_
  rw [← hmore, List.head?_append, ← pieces, hhead]
  rfl

theorem parent?_absolute (body : List Char) :
    parent? (String.ofList ('/' :: body))
      = if dropIdle false (pieces body) = [] then none
        else some (String.ofList ('/' :: joined '/' (above false (pieces body)))) := by
  rw [parent?, String.toList_ofList]
  split
  next slash rest leading hcut =>
    cases hcut
    split
    · next hnone => rw [if_pos hnone]
    · next hsome =>
      rw [if_neg hsome]
      rfl

theorem parent?_relative {text : List Char} (h : text.head? ≠ some '/') :
    parent? (String.ofList text)
      = if dropIdle true (pieces text) = [] then none
        else some (String.ofList (joined '/' (above true (pieces text)))) := by
  rw [parent?, String.toList_ofList]
  split
  next slash rest leading hcut =>
    split at hcut
    · exact absurd rfl h
    · cases hcut
      split
      · next hnone => rw [if_pos hnone]
      · next hsome =>
        rw [if_neg hsome]
        rfl

/-- A path has no last step to take away only when it has no step below the root. -/
theorem parent?_cases (path : String) :
    parent? path = none ∧ (∀ c ∈ components path, c = .root) ∨
      ∃ dir, ∃ c ≠ .root, parent? path = some dir ∧ components path = components dir ++ [c] := by
  obtain ⟨text, rfl⟩ : ∃ text, path = String.ofList text := ⟨path.toList, (String.ofList_toList).symm⟩
  by_cases habsolute : text.head? = some '/'
  · obtain ⟨body, rfl⟩ := List.head?_eq_some_iff.mp habsolute
    rw [parent?_absolute, components_absolute]
    split
    · next hnone =>
      refine .inl ⟨rfl, ?_⟩
      have hsteps := steps_dropIdle false (pieces body)
      rw [hnone] at hsteps
      rw [← hsteps]
      exact fun c hc => List.mem_singleton.mp hc
    · next hsome =>
      obtain ⟨c, hc, hsteps⟩ := steps_above hsome
      refine .inr ⟨_, c, hc, rfl, ?_⟩
      rw [components_absolute, hsteps, List.cons_append]
  · rw [parent?_relative habsolute, components_relative habsolute]
    split
    · next hnone =>
      refine .inl ⟨rfl, ?_⟩
      have hsteps := steps_dropIdle true (pieces text)
      rw [hnone] at hsteps
      rw [← hsteps]
      exact nofun
    · next hsome =>
      obtain ⟨c, hc, hsteps⟩ := steps_above hsome
      refine .inr ⟨_, c, hc, rfl, ?_⟩
      rw [components_relative (head?_joined_above habsolute), hsteps]

/-- How many steps a path has below the root. -/
def depth (path : String) : Nat :=
  (components path).countP (· ≠ .root)

/-- Going up fails exactly for a path with fewer steps, and takes steps away from the end. -/
theorem ancestor?_cases (n : Nat) (path : String) :
    ancestor? n path = none ∧ depth path < n ∨
      ∃ dir last, ancestor? n path = some dir ∧ last.length = n ∧ n ≤ depth path ∧
        components path = components dir ++ last := by
  induction n generalizing path with
  | zero => exact .inr ⟨path, [], rfl, rfl, Nat.zero_le _, (List.append_nil _).symm⟩
  | succ n ih =>
    rw [ancestor?]
    rcases parent?_cases path with ⟨hnone, hroot⟩ | ⟨dir, c, hc, hparent, hsteps⟩
    · refine .inl ⟨by rw [hnone]; rfl, ?_⟩
      have hdepth : depth path = 0 := by
        refine List.countP_eq_zero.mpr fun c hc => ?_
        simp [hroot c hc]
      omega
    · have hdepth : depth path = depth dir + 1 := by
        rw [depth, hsteps, List.countP_append]
        simp [hc, depth]
      rw [hparent, Option.bind_some, hdepth]
      rcases ih dir with ⟨hnone, hless⟩ | ⟨top, last, htop, hlength, hle, hlast⟩
      · exact .inl ⟨hnone, by omega⟩
      · refine .inr ⟨top, last ++ [c], htop, by simp [hlength], by omega, ?_⟩
        rw [hsteps, hlast, List.append_assoc]

/-! ## Joining -/

/-- A name that is one step by itself. -/
structure Proper (name : List Char) : Prop where
  slash : '/' ∉ name
  notIdle : name ∉ [[], ['.'], ['.', '.']]

theorem Proper.component? {name : List Char} (h : Proper name) (leading : Bool) :
    component? leading name = some (.normal name) := by
  obtain ⟨hempty, hdot, hdots⟩ : name ≠ [] ∧ name ≠ ['.'] ∧ name ≠ ['.', '.'] := by
    simpa using h.notIdle
  simp [Path.component?, hempty, hdot, hdots]

theorem Proper.steps {name : List Char} (h : Proper name) (leading : Bool) :
    steps leading (pieces name) = [.normal name] := by
  have hnone : ∀ c ∈ name, ¬ (c == '/') = true := by
    intro c hc hsep
    exact h.slash (beq_iff_eq.mp hsep ▸ hc)
  rw [pieces, Split.pieces_of_none hnone, steps_cons, h.component?]
  rfl

theorem Proper.head? {name : List Char} (h : Proper name) : name.head? ≠ some '/' :=
  fun hhead => h.slash (List.mem_of_head? hhead)

theorem steps_append (leading : Bool) {front : List (List Char)} (hfront : front ≠ [])
    (more : List (List Char)) :
    steps leading (front ++ more) = steps leading front ++ steps false more := by
  obtain ⟨first, rest, rfl⟩ := List.exists_cons_of_ne_nil hfront
  rw [List.cons_append, steps_cons, steps_cons, steps_false, steps_false, steps_false,
    List.filterMap_append, List.append_assoc]

/-- The steps of a path with a slash in it, when the slash is not in front. -/
theorem components_append_slash {front : List Char} (hfront : front ≠ []) (more : List Char) :
    components (String.ofList (front ++ '/' :: more))
      = components (String.ofList front) ++ steps false (pieces more) := by
  have hpieces : ∀ text, pieces (text ++ '/' :: more) = pieces text ++ pieces more :=
    fun text => Split.pieces_append_cons rfl text more
  have hne : ∀ text, pieces text ≠ [] := fun text => Split.pieces_ne_nil _ text
  by_cases habsolute : front.head? = some '/'
  · obtain ⟨body, rfl⟩ := List.head?_eq_some_iff.mp habsolute
    rw [List.cons_append, components_absolute, components_absolute, hpieces,
      steps_append false (hne body), List.cons_append]
  · have hrelative : (front ++ '/' :: more).head? ≠ some '/' := by
      rwa [List.head?_append_of_ne_nil _ hfront]
    rw [components_relative hrelative, components_relative habsolute, hpieces,
      steps_append true (hne front)]

/-- The steps of a path with a slash in it, when the slash may be in front. -/
theorem components_slash_append (front more : List Char) :
    components (String.ofList (front ++ '/' :: more))
      = components (String.ofList (front ++ ['/'])) ++ steps false (pieces more) := by
  by_cases hfront : front = []
  · subst hfront
    rw [List.nil_append, List.nil_append, components_absolute, components_absolute]
    rfl
  · rw [components_append_slash hfront, components_append_slash hfront]
    exact congrArg (· ++ _) (List.append_nil _).symm

theorem exists_of_endsWith_slash {text : List Char} (h : (String.ofList text).endsWith "/" = true) :
    ∃ front, front ++ ['/'] = text := by
  have hend : ['/'] <:+ (String.ofList text).toList := by
    rwa [← String.endsWith_toSlice, String.Slice.endsWith_string_iff, String.copy_toSlice] at h
  rwa [String.toList_ofList] at hend

/-- A name behind a path is one more step. -/
theorem components_join (base : String) {name : String} (h : Proper name.toList) :
    components (join base name) = components base ++ [.normal name.toList] := by
  obtain ⟨text, rfl⟩ : ∃ text, base = String.ofList text :=
    ⟨base.toList, (String.ofList_toList).symm⟩
  have habsolute : isAbsolute name = false := by simpa [isAbsolute] using h.head?
  have happend : ∀ front : List Char,
      String.ofList front ++ name = String.ofList (front ++ name.toList) := by
    intro front
    rw [String.ofList_append, String.ofList_toList]
  rw [join, if_neg (by simp [habsolute])]
  split
  · next hjoined =>
    rw [happend]
    by_cases hempty : text = []
    · subst hempty
      rw [List.nil_append, components_relative h.head?, h.steps]
      rfl
    · have hends : (String.ofList text).endsWith "/" = true := by simpa [hempty] using hjoined
      obtain ⟨front, rfl⟩ := exists_of_endsWith_slash hends
      rw [List.append_assoc, List.singleton_append, components_slash_append, h.steps]
  · next hjoined =>
    have hne : text ≠ [] := by
      rintro rfl
      exact hjoined rfl
    have hslash : String.ofList text ++ "/" ++ name = String.ofList (text ++ '/' :: name.toList) :=
      String.toList_inj.mp (by simp)
    rw [hslash, components_append_slash hne, h.steps]

end Path

end Onboarding
