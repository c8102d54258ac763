import Mathlib.Data.List.Induction
import Mathlib.Data.List.TakeWhile
import Onboarding.Identity.Keycloak

/-!
# The end of a location

The id in a location is its last segment, slashes at the end apart.  Reading goes from the end; what
is read is said here from the front.

* Places.  `EndsIn` says where an id stands in a location.  Every location ends in one, or is
  nothing but slashes (`slashes_or_endsIn`).
* Reading.  `EndsIn.read` reads an id wherever it stands so, and `idOfLocation?_of_slashes` finds
  none in slashes.  `idOfLocation?_last` puts both together.
-/

namespace Onboarding

namespace Keycloak

/-! ## Places -/

/-- An id at the end of a location: without a slash in it, behind a slash or at the front, and with
nothing but slashes behind it. -/
structure EndsIn (location id : String) : Prop where
  nonempty : id ≠ ""
  slashless : '/' ∉ id.toList
  parts : ∃ (before : List Char) (n : Nat), (before = [] ∨ before.getLast? = some '/') ∧
    location.toList = before ++ id.toList ++ List.replicate n '/'

/-- One more slash at the end makes no difference. -/
theorem EndsIn.slash {text : List Char} {id : String} (h : EndsIn (String.ofList text) id) :
    EndsIn (String.ofList (text ++ ['/'])) id := by
  obtain ⟨before, n, hbefore, htext⟩ := h.parts
  rw [String.toList_ofList] at htext
  refine ⟨h.nonempty, h.slashless, before, n + 1, hbefore, ?_⟩
  rw [String.toList_ofList, htext, List.replicate_succ', List.append_assoc]

/-- What follows the last slash of a text, which may be nothing, and may be the whole text. -/
theorem exists_behind_slash (text : List Char) :
    ∃ before behind : List Char, text = before ++ behind ∧ '/' ∉ behind ∧
      (before = [] ∨ before.getLast? = some '/') := by
  induction text using List.reverseRecOn with
  | nil => exact ⟨[], [], rfl, List.not_mem_nil, .inl rfl⟩
  | append_singleton text c ih =>
    obtain ⟨before, behind, rfl, hslash, hbefore⟩ := ih
    by_cases hc : c = '/'
    · refine ⟨before ++ behind ++ [c], [], (List.append_nil _).symm, List.not_mem_nil, .inr ?_⟩
      rw [List.getLast?_concat, hc]
    · refine ⟨before, behind ++ [c], List.append_assoc _ _ _, ?_, hbefore⟩
      rw [List.mem_append, List.mem_singleton, not_or]
      exact ⟨hslash, Ne.symm hc⟩

/-- A location is nothing but slashes, or ends in an id. -/
theorem slashes_or_endsIn (text : List Char) :
    (∀ c ∈ text, c = '/') ∨ ∃ id, EndsIn (String.ofList text) id := by
  induction text using List.reverseRecOn with
  | nil => exact .inl nofun
  | append_singleton text c ih =>
    by_cases hc : c = '/'
    · subst hc
      rcases ih with hslashes | ⟨id, hid⟩
      · refine .inl fun c hmem => ?_
        rcases List.mem_append.mp hmem with htext | hlast
        · exact hslashes c htext
        · exact List.mem_singleton.mp hlast
      · exact .inr ⟨id, hid.slash⟩
    · -- The id ends here, whatever the text before it ends in.
      obtain ⟨before, behind, rfl, hslash, hbefore⟩ := exists_behind_slash text
      refine .inr ⟨String.ofList (behind ++ [c]), ?_, ?_, before, 0, hbefore, ?_⟩
      · simp [← String.toList_inj]
      · simp [hslash, Ne.symm hc]
      · simp

/-! ## Reading -/

/-- Nothing is found in slashes. -/
theorem idOfLocation?_of_slashes {location : String} (h : ∀ c ∈ location.toList, c = '/') :
    idOfLocation? location = none := by
  have hslashes : ∀ c ∈ location.toList.reverse, (c == '/') = true := by
    intro c hc
    exact beq_iff_eq.mpr (h c (List.mem_reverse.mp hc))
  rw [idOfLocation?, List.dropWhile_eq_nil_iff.mpr hslashes]
  rfl

/-- An id is read wherever a location ends in it. -/
theorem EndsIn.read {location id : String} (h : EndsIn location id) :
    idOfLocation? location = some id := by
  obtain ⟨before, n, hbefore, htext⟩ := h.parts
  have hne : id.toList ≠ [] := fun hnil => h.nonempty (String.toList_eq_nil_iff.mp hnil)
  have hid : ∀ c ∈ id.toList.reverse, (c != '/') = true := by
    intro c hc
    rw [bne_iff_ne]
    rintro rfl
    exact h.slashless (List.mem_reverse.mp hc)
  have hslashes : ∀ c ∈ List.replicate n '/', (c == '/') = true :=
    fun c hc => beq_iff_eq.mpr (List.eq_of_mem_replicate hc)
  have hreverse : location.toList.reverse
      = List.replicate n '/' ++ (id.toList.reverse ++ before.reverse) := by
    simp [htext]
  have hdrop : (id.toList.reverse ++ before.reverse).dropWhile (· == '/')
      = id.toList.reverse ++ before.reverse := by
    obtain ⟨c, more, hcons⟩ := List.exists_cons_of_ne_nil (List.reverse_ne_nil_iff.mpr hne)
    have hc : ¬ (c == '/') = true := by simpa using hid c (by simp [hcons])
    rw [hcons, List.cons_append]
    exact List.dropWhile_cons_of_neg hc
  have htake : before.reverse.takeWhile (· != '/') = [] := by
    rcases hbefore with rfl | hlast
    · rfl
    · rw [← List.head?_reverse] at hlast
      obtain ⟨more, hcons⟩ := List.head?_eq_some_iff.mp hlast
      rw [hcons]
      rfl
  have hread : (location.toList.reverse.dropWhile (· == '/')).takeWhile (· != '/')
      = id.toList.reverse := by
    rw [hreverse, List.dropWhile_append_of_pos hslashes, hdrop, List.takeWhile_append_of_pos hid,
      htake, List.append_nil]
  have hempty : id.toList.isEmpty = false := by simpa using hne
  simp only [idOfLocation?, hread, List.reverse_reverse, hempty, Bool.false_eq_true, if_false,
    String.ofList_toList]

/-- A location has no id, or the one that it ends in. -/
theorem idOfLocation?_cases (location : String) :
    idOfLocation? location = none ∧ (∀ c ∈ location.toList, c = '/') ∨
      ∃ id, idOfLocation? location = some id ∧ EndsIn location id := by
  rcases slashes_or_endsIn location.toList with hslashes | ⟨id, hid⟩
  · exact .inl ⟨idOfLocation?_of_slashes hslashes, hslashes⟩
  · rw [String.ofList_toList] at hid
    exact .inr ⟨id, hid.read, hid⟩

theorem idOfLocation?_eq_some_iff (location id : String) :
    idOfLocation? location = some id ↔ EndsIn location id := by
  refine ⟨fun h => ?_, EndsIn.read⟩
  rcases idOfLocation?_cases location with ⟨hnone, -⟩ | ⟨found, hfound, hends⟩
  · rw [hnone] at h
    cases h
  · rw [hfound] at h
    exact Option.some.inj h ▸ hends

theorem idOfLocation?_eq_none_iff (location : String) :
    idOfLocation? location = none ↔ ∀ c ∈ location.toList, c = '/' := by
  refine ⟨fun h => ?_, idOfLocation?_of_slashes⟩
  rcases idOfLocation?_cases location with ⟨-, hslashes⟩ | ⟨id, hid, -⟩
  · exact hslashes
  · rw [hid] at h
    cases h

/-- Which id a location has.  It has none exactly when it is nothing but slashes, and empty text is
nothing but slashes too.  Otherwise there is exactly one id that it ends in, without a slash in it,
behind a slash or at the front, and with nothing but slashes behind it, and this is the id. -/
theorem idOfLocation?_last (location : String) :
    (idOfLocation? location = none ↔ ∀ c ∈ location.toList, c = '/') ∧
      (∀ id, idOfLocation? location = some id ↔ EndsIn location id) ∧
      ((∃ c ∈ location.toList, c ≠ '/') → ∃! id, EndsIn location id) := by
  refine ⟨idOfLocation?_eq_none_iff location, idOfLocation?_eq_some_iff location, ?_⟩
  rintro ⟨c, hmem, hc⟩
  rcases idOfLocation?_cases location with ⟨-, hslashes⟩ | ⟨id, hread, hends⟩
  · exact absurd (hslashes c hmem) hc
  · refine ⟨id, hends, fun other hother => ?_⟩
    exact Option.some.inj (hother.read.symm.trans hread)

theorem idOfLocation?_last_trailing :
    idOfLocation? "https://kc/admin//users/1f2e-33//" = some "1f2e-33" ∧
      (∃! id, EndsIn "https://kc/admin//users/1f2e-33//" id) ∧
      idOfLocation? "///" = none ∧ idOfLocation? "" = none := by
  have hends : EndsIn "https://kc/admin//users/1f2e-33//" "1f2e-33" :=
    ⟨by decide, by decide +kernel, "https://kc/admin//users/".toList, 2, .inr (by decide +kernel),
      by decide +kernel⟩
  obtain ⟨-, hread, hunique⟩ := idOfLocation?_last "https://kc/admin//users/1f2e-33//"
  refine ⟨(hread "1f2e-33").mpr hends, hunique ⟨'h', by decide +kernel, by decide⟩, ?_, ?_⟩
  · exact (idOfLocation?_last "///").1.mpr (by simp)
  · exact (idOfLocation?_last "").1.mpr (by simp)

end Keycloak

end Onboarding
