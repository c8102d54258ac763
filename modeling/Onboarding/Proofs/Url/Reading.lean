import Mathlib.Data.List.TakeDrop
import Onboarding.Proofs.Text.Split
import Onboarding.Proofs.Url.Path

/-!
# Paths of URLs that were read

Whatever text a URL is read from, its path is rooted as soon as the URL can carry one.

* A path that starts with a slash keeps it while segments are added (`addSegments_fromSlash`).
* `readPath_rooted` and `readPathStart_rooted` are the two ways to read a path behind an authority,
  and `parse_rooted` is what holds of a whole URL.
-/

namespace Onboarding

namespace Url

/-! ## Growing from a slash -/

section

variable {family : Family} {path : List Char}

theorem FromSlash.append (h : FromSlash path) (more : List Char) : FromSlash (path ++ more) := by
  obtain ⟨rest, rfl⟩ := h
  exact ⟨rest ++ more, rfl⟩

/-- What is left of a path that is cut at its end, when something is left. -/
theorem FromSlash.of_prefix (h : FromSlash path) {start : List Char} (hstart : start <+: path)
    (hne : start ≠ []) : FromSlash start := by
  obtain ⟨rest, rfl⟩ := h
  cases start with
  | nil => exact absurd rfl hne
  | cons c more =>
    obtain ⟨rfl, -⟩ := List.cons_prefix_cons.mp hstart
    exact ⟨more, rfl⟩

theorem dropSlash_fromSlash (h : FromSlash path) : FromSlash (dropSlash path) := by
  rw [dropSlash]
  split
  · next hdrop =>
    refine h.of_prefix (List.dropLast_prefix path) fun hnil => ?_
    rw [hnil] at hdrop
    simp at hdrop
  · exact h

theorem shorten_fromSlash (h : FromSlash path) : FromSlash (shorten family path) := by
  have hcut : FromSlash (upToSlash path) := by
    refine h.of_prefix (List.rdropWhile_prefix _ _) fun hnil => ?_
    obtain ⟨rest, rfl⟩ := h
    have hall := List.rdropWhile_eq_nil_iff.mp hnil '/' List.mem_cons_self
    cases hall
  unfold shorten
  split
  · split
    · exact h
    · exact hcut
  · exact hcut

theorem withSlash_fromSlash (h : FromSlash path) : FromSlash (withSlash path) := by
  rw [withSlash]
  split
  · exact h
  · exact h.append _

theorem addSegment_fromSlash (h : FromSlash path) (segment : List Char) (slash : Bool) :
    FromSlash (addSegment family path segment slash) := by
  have hup : FromSlash (shorten family (dropSlash path)) :=
    shorten_fromSlash (dropSlash_fromSlash h)
  unfold addSegment
  split
  · dsimp only
    split
    · exact withSlash_fromSlash hup
    · exact hup
  · split
    · exact withSlash_fromSlash h
    · exact (h.append _).append _

theorem addSegments_fromSlash (h : FromSlash path) (segments : List (List Char)) :
    FromSlash (addSegments family path segments) := by
  induction segments generalizing path with
  | nil => exact h
  | cons segment rest ih =>
    cases rest with
    | nil => exact addSegment_fromSlash h segment false
    | cons next more => exact ih (addSegment_fromSlash h segment true)

end

/-! ## Reading -/

/-- A path read behind the root. -/
theorem readPath_rooted (family : Family) (text : List Char) :
    Rooted family (readPath family ['/'] text).1 :=
  rooted_settle (Or.inr (addSegments_fromSlash ⟨[], rfl⟩ _))

/-- A path of a file is rooted, whatever it is read behind. -/
theorem readPath_rooted_file (start text : List Char) :
    Rooted .file (readPath .file start text).1 :=
  rooted_settle (Or.inl rfl)

/-- A path whose own slash is read first. -/
theorem readPath_rooted_slash (family : Family) (text : List Char) :
    Rooted family (readPath family [] ('/' :: text)).1 := by
  have hregion : ('/' :: text).span (!isPathEnd ·)
      = ('/' :: text.takeWhile (!isPathEnd ·), text.dropWhile (!isPathEnd ·)) :=
    List.span_eq_takeWhile_dropWhile _ _
  have hpieces : Split.pieces (isSeparator family) ('/' :: text.takeWhile (!isPathEnd ·))
      = [] :: Split.pieces (isSeparator family) (text.takeWhile (!isPathEnd ·)) :=
    Split.pieces_sep (by simp [isSeparator]) _
  rw [readPath, hregion]
  refine rooted_settle (Or.inr ?_)
  rw [hpieces]
  -- The empty piece in front leaves the root, which the rest is put behind.
  have hroot : FromSlash ['/'] := ⟨[], rfl⟩
  cases hrest : Split.pieces (isSeparator family) (text.takeWhile (!isPathEnd ·)) with
  | nil => exact absurd hrest (Split.pieces_ne_nil _ _)
  | cons piece more => exact addSegments_fromSlash hroot _

theorem readPathStart_rooted (family : Family) (text : List Char) :
    Rooted family (readPathStart family text).1 := by
  unfold readPathStart
  split
  · cases family with
    | web | file => exact .root
    | other => exact .empty (by decide)
  · next c rest =>
    split
    · exact readPath_rooted family _
    · next hspecial =>
      split
      · refine .empty ?_
        rintro rfl
        exact hspecial rfl
      · split
        · next hc =>
          rw [hc]
          exact readPath_rooted_slash family rest
        · exact readPath_rooted family _

theorem readFilePath_rooted (text : List Char) : Rooted .file (readFilePath text).1 :=
  readPath_rooted_file _ _

theorem readFile_rooted {scheme text : List Char} {u : Url} (h : readFile scheme text = .ok u) :
    u.scheme = scheme ∧ Rooted .file u.path := by
  unfold readFile at h
  split at h
  · split at h
    · dsimp only at h
      split at h
      · cases h
        exact ⟨rfl, readPath_rooted_file _ _⟩
      · split at h
        · cases h
          exact ⟨rfl, readFilePath_rooted _⟩
        · split at h
          · cases h
          · split at h
            · cases h
              exact ⟨rfl, readFilePath_rooted _⟩
            · cases h
              exact ⟨rfl, readPathStart_rooted .file _⟩
    · cases h
      exact ⟨rfl, readFilePath_rooted _⟩
  · cases h
    exact ⟨rfl, readFilePath_rooted _⟩

/-- A URL of an authority and what stands behind it. -/
theorem rooted_of_authority {scheme : List Char}
    {authority : Except Error (Authority × List Char)} {u : Url}
    (h : (authority.map fun (authority, rest) =>
      build scheme authority (readPathStart (family scheme) rest)) = .ok u) :
    u.scheme = scheme ∧ Rooted (family scheme) u.path := by
  cases authority with
  | error e => cases h
  | ok found =>
    cases h
    exact ⟨rfl, readPathStart_rooted _ _⟩

/-- A URL that was read has a rooted path, unless it has no authority. -/
theorem readRest_rooted {scheme text : List Char} {u : Url} (h : readRest scheme text = .ok u) :
    u.scheme = scheme ∧
      (Rooted (family scheme) u.path ∨ family scheme = .other ∧ u.authority = none) := by
  unfold readRest at h
  cases hfamily : family scheme with
  | file =>
    simp only [hfamily] at h
    obtain ⟨hscheme, hrooted⟩ := readFile_rooted h
    exact ⟨hscheme, Or.inl hrooted⟩
  | web =>
    simp only [hfamily] at h
    rw [← hfamily] at h
    obtain ⟨hscheme, hrooted⟩ := rooted_of_authority h
    exact ⟨hscheme, Or.inl (hfamily ▸ hrooted)⟩
  | other =>
    simp only [hfamily] at h
    split at h
    · rw [← hfamily] at h
      obtain ⟨hscheme, hrooted⟩ := rooted_of_authority h
      exact ⟨hscheme, Or.inl (hfamily ▸ hrooted)⟩
    · cases h
      exact ⟨rfl, Or.inr ⟨rfl, rfl⟩⟩
    · cases h
      exact ⟨rfl, Or.inr ⟨rfl, rfl⟩⟩

/-- Every URL that can carry a path has a rooted one. -/
theorem parse_rooted {s : String} {u : Url} (h : parse s = .ok u)
    (hcarries : u.hasHierarchy = true) : Rooted (family u.scheme) u.path := by
  rw [parse] at h
  split at h
  · next scheme rest _ =>
    obtain ⟨hscheme, hrooted | ⟨hother, hnone⟩⟩ := readRest_rooted h
    · rw [hscheme]
      exact hrooted
    · obtain ⟨path, hpath⟩ : FromSlash u.path := by
        rw [hasHierarchy, hnone] at hcarries
        obtain ⟨path, hpath⟩ := List.head?_eq_some_iff.mp (by simpa using hcarries)
        exact ⟨path, hpath⟩
      have hsettled : Rooted .other (settle .other ('/' :: path)) :=
        rooted_settle (Or.inr ⟨path, rfl⟩)
      rw [hscheme, hother, hpath]
      exact hsettled
  · cases h

end Url

end Onboarding
