import Onboarding.Proofs.Url.Below

/-!
# Segments of any text

A segment that is put behind plain ones as the last of a path can be read back from the URL, but for
tabs and line ends, which count nowhere in a URL.

* Text.  `counted` is a string as far as it counts.  It is what is read back (`segmentText_read`),
  and all that two segments written alike have in common (`segmentText_eq_iff`).  What counts as
  dots is written as dots (`isSingleDot_segmentText_iff`, `isDoubleDot_segmentText_iff`).
* URLs.  `Carries.below_last` is the URL with such a segment, and `text_behind` says that URLs that
  differ behind a path are written differently.
-/

namespace Onboarding

namespace Url

/-! ## Text -/

/-- A string without tabs and line ends. -/
def counted (s : String) : String :=
  String.ofList (s.toList.filter (!isIgnored ·))

/-- What the last segment of a path stands for, when it stands for text. -/
def lastText? (u : Url) : Option String :=
  Utf8.toString? (Percent.decode (Utf8.encode (afterSlash u.path)))

theorem counted_append (s t : String) : counted (s ++ t) = counted s ++ counted t := by
  rw [counted, String.toList_append, List.filter_append, String.ofList_append]
  rfl

/-- A string whose signs all count. -/
theorem counted_of_all {s : String} (h : ∀ c ∈ s.toList, isIgnored c = false) : counted s = s := by
  have hall : s.toList.filter (!isIgnored ·) = s.toList := by
    refine List.filter_eq_self.mpr fun c hc => ?_
    rw [h c hc]
    rfl
  rw [counted, hall, String.ofList_toList]

/-- In every family the percent sign is escaped. -/
theorem exists_segmentText (family : Family) :
    ∃ escapes : Percent.Escapes, escapes 0x25 = true ∧
      ∀ segment, segmentText family segment = Percent.encode escapes (counted segment).toList := by
  cases family with
  | web | file =>
    refine ⟨Percent.specialSegment, rfl, fun segment => ?_⟩
    rw [counted, String.toList_ofList]
    rfl
  | other =>
    refine ⟨Percent.segment, rfl, fun segment => ?_⟩
    rw [counted, String.toList_ofList]
    rfl

/-- A segment is read back as far as it counts. -/
theorem segmentText_read (family : Family) (segment : String) :
    Utf8.toString? (Percent.decode (Utf8.encode (segmentText family segment)))
      = some (counted segment) := by
  obtain ⟨escapes, hmark, htext⟩ := exists_segmentText family
  rw [htext, Percent.decode_encode hmark, Utf8.toString?, Utf8.decode?_encode, Option.map_some,
    String.ofList_toList]

/-- Segments are written alike when they count for the same. -/
theorem segmentText_eq_iff (family : Family) (a b : String) :
    segmentText family a = segmentText family b ↔ counted a = counted b := by
  obtain ⟨escapes, hmark, htext⟩ := exists_segmentText family
  rw [htext, htext, (Percent.encode_injective hmark).eq_iff, String.toList_inj]

/-- What is written for a segment is a dot only when the segment counts as one. -/
theorem isSingleDot_segmentText_iff (family : Family) (segment : String) :
    isSingleDot (segmentText family segment) = true ↔ counted segment = "." := by
  have hread : ∀ dot ∈ dots, Utf8.toString? (Percent.decode (Utf8.encode dot)) = some "." := by
    decide +kernel
  constructor
  · intro hdot
    have hcounted := hread _ (List.contains_iff_mem.mp hdot)
    rw [segmentText_read] at hcounted
    exact Option.some.inj hcounted
  · intro hcounted
    have hdot : segmentText family segment = segmentText family "." :=
      (segmentText_eq_iff family segment ".").mpr hcounted
    rw [hdot]
    cases family <;> decide

/-- What is written for a segment is two dots only when the segment counts as two. -/
theorem isDoubleDot_segmentText_iff (family : Family) (segment : String) :
    isDoubleDot (segmentText family segment) = true ↔ counted segment = ".." := by
  have hread : ∀ a ∈ dots, ∀ b ∈ dots,
      Utf8.toString? (Percent.decode (Utf8.encode (a ++ b))) = some ".." := by
    decide +kernel
  constructor
  · intro hdots
    obtain ⟨a, ha, b, hb, hboth⟩ : ∃ a ∈ dots, ∃ b ∈ dots, a ++ b = segmentText family segment := by
      simpa [isDoubleDot] using hdots
    have hcounted := hread a ha b hb
    rw [hboth, segmentText_read] at hcounted
    exact Option.some.inj hcounted
  · intro hcounted
    have hdots : segmentText family segment = segmentText family ".." :=
      (segmentText_eq_iff family segment "..").mpr hcounted
    rw [hdots]
    cases family <;> decide

/-- Nothing that is written for a segment is left out when it is read. -/
theorem counted_segmentText (family : Family) (segment : String) :
    counted (String.ofList (segmentText family segment))
      = String.ofList (segmentText family segment) := by
  refine counted_of_all fun c hc => ?_
  rw [String.toList_ofList] at hc
  have hmissing : ∀ sign ∈ ['\t', '\n', '\r'], sign ∉ segmentText family segment := by
    intro sign hsign
    have hescaped : Percent.specialSegment (UInt8.ofNat sign.toNat) = true ∧
        Percent.segment (UInt8.ofNat sign.toNat) = true ∧ sign ≠ '%' ∧ sign.isAlphanum = false := by
      have hcases : sign = '\t' ∨ sign = '\n' ∨ sign = '\r' := by simpa using hsign
      rcases hcases with rfl | rfl | rfl <;> decide
    obtain ⟨hspecial, hplain, hmark, halnum⟩ := hescaped
    cases family with
    | web | file => exact Percent.not_mem_encode hspecial hmark halnum _
    | other => exact Percent.not_mem_encode hplain hmark halnum _
  rw [Bool.eq_false_iff]
  intro hignored
  refine hmissing c ?_ hc
  simpa [isIgnored, or_assoc] using hignored

/-- Text that begins with a sign of its own stays. -/
theorem stays_of_head {c : Char} (hdot : c ≠ '.') (hmark : c ≠ '%') (hletter : isLetter c = false)
    (rest : List Char) : Stays (c :: rest) := by
  have hfirst : ∀ dot ∈ dots, ∃ first more, dot = first :: more ∧ c ≠ first := by
    intro dot hmem
    have hspelled : dot = ['.'] ∨ dot = ['%', '2', 'e'] ∨ dot = ['%', '2', 'E'] := by
      simpa [dots] using hmem
    rcases hspelled with rfl | rfl | rfl
    · exact ⟨_, _, rfl, hdot⟩
    · exact ⟨_, _, rfl, hmark⟩
    · exact ⟨_, _, rfl, hmark⟩
  refine ⟨⟨?_, ?_⟩, ?_⟩
  · rw [isSingleDot, Bool.eq_false_iff]
    intro hsingle
    obtain ⟨first, more, hcons, hne⟩ := hfirst _ (List.contains_iff_mem.mp hsingle)
    exact hne (List.cons.inj hcons).1
  · rw [isDoubleDot, Bool.eq_false_iff]
    intro hdouble
    obtain ⟨a, ha, b, -, hboth⟩ : ∃ a ∈ dots, ∃ b ∈ dots, a ++ b = c :: rest := by
      simpa using hdouble
    obtain ⟨first, more, rfl, hne⟩ := hfirst a ha
    exact hne (List.cons.inj hboth).1.symm
  · match rest with
    | [] => rfl
    | [mark] => simp [isDriveLetter, hletter]
    | _ :: _ :: _ => rfl

/-! ## URLs -/

variable {base : Url}

/-- The URL with one more segment behind plain ones, when the text of the segment stays. -/
theorem Carries.below_last (h : base.Carries) (names : List String) {name : String}
    (hnames : ∀ n ∈ names, Plain n) (hname : Plain name) :
    ∃ top : List Char, 2 ≤ top.length ∧ ∀ segment, Stays (segmentText (family base.scheme) segment) →
      base.below (names ++ [name] ++ [segment])
        = { base with path := top ++ '/' :: segmentText (family base.scheme) segment } := by
  have hled := led_of_plain names hnames hname (ready_dropEmpty h.rooted)
  refine ⟨(names ++ [name]).foldl (extend (family base.scheme)) (dropEmpty base.path), ?_,
    fun segment hstays => ?_⟩
  · exact hled.long hname
  · rw [below, below?, if_pos h.hierarchy, Option.getD_some, List.foldl_append, List.foldl_cons,
      List.foldl_nil, extend_undotted (hled.inside hname) (hled.long hname) hstays.notDots]

/-- URLs that differ behind a path are written differently. -/
theorem text_behind (base : Url) {top : List Char} (htop : 2 ≤ top.length) (a b : List Char) :
    ({ base with path := top ++ a } : Url).text = ({ base with path := top ++ b } : Url).text ↔
      a = b := by
  have htake : ∀ more : List Char, (top ++ more).take 2 = top.take 2 := by
    intro more
    exact List.take_append_of_le_length htop
  constructor
  · intro htext
    have hchars := String.ofList_injective htext
    simp only [chars, pathText, htake] at hchars
    split at hchars
    · simpa using hchars
    · simpa using hchars
  · rintro rfl
    rfl

end Url

end Onboarding
