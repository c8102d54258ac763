import Mathlib.Data.List.DropRight
import Onboarding.Proofs.Text.Percent
import Onboarding.Url.Below

/-!
# Paths that stay below a path

A path grows by segments of any text, some of which take the segment before them away.  What is
below a given path stays below it as long as each of these follows a segment that stands for itself.

* Shapes.  `Rooted` paths are those of URLs that carry a path, and `stripped` is a path without the
  slashes at its end.
* `Inside family top path`: the path goes on behind `top` with a slash, and nothing there closes the
  path.
* Steps.  A plain segment is added as it is (`extend_plain`), and a segment of any text behind it
  may take it away but no more (`extend_free`); one that is not made of dots is added as it is
  written (`extend_undotted`).
* Runs.  Plain segments lead a path on (`led_of_plain`), and `Guided` ones keep it inside
  (`Guided.inside`).
-/

namespace Onboarding

namespace Url

/-! ## Shapes -/

/-- A path as it stands in a URL that can carry one: empty, the root, or steps from the root on.  In
a URL of a file it is not empty, and the first step neither. -/
inductive Rooted (family : Family) : List Char → Prop where
  | empty (hfamily : family ≠ .file) : Rooted family []
  | root : Rooted family ['/']
  | steps {c : Char} {rest : List Char} (hfirst : family = .file → c ≠ '/') :
      Rooted family ('/' :: c :: rest)

/-- A path without the slashes at its end. -/
def stripped (path : List Char) : List Char :=
  path.rdropWhile (· == '/')

/-- Text with no sign that closes a path. -/
def StaysOpen (text : List Char) : Prop :=
  ∀ c ∈ text, isPathEnd c = false

theorem StaysOpen.append {text more : List Char} (h : StaysOpen text) (h' : StaysOpen more) :
    StaysOpen (text ++ more) :=
  List.forall_mem_append.mpr ⟨h, h'⟩

theorem staysOpen_slashes (n : Nat) : StaysOpen (List.replicate n '/') := by
  intro c hc
  rw [List.eq_of_mem_replicate hc]
  rfl

theorem staysOpen_nil : StaysOpen [] :=
  nofun

theorem StaysOpen.cons {c : Char} {text : List Char} (hc : isPathEnd c = false) (h : StaysOpen text) :
    StaysOpen (c :: text) :=
  List.forall_mem_cons.mpr ⟨hc, h⟩

theorem isPathEnd_eq_false_iff {c : Char} : isPathEnd c = false ↔ c ≠ '?' ∧ c ≠ '#' := by
  simp [isPathEnd]

/-- Where these signs are escaped, encoded text holds none of them. -/
theorem staysOpen_encode {e : Percent.Escapes} (hquery : e 0x3F = true) (hfragment : e 0x23 = true)
    (text : List Char) : StaysOpen (Percent.encode e text) := by
  intro c hc
  refine isPathEnd_eq_false_iff.mpr ⟨?_, ?_⟩
  · rintro rfl
    exact Percent.not_mem_encode hquery (by decide) (by decide) text hc
  · rintro rfl
    exact Percent.not_mem_encode hfragment (by decide) (by decide) text hc

/-- A path that starts with a slash. -/
def FromSlash (path : List Char) : Prop :=
  ∃ rest, path = '/' :: rest

/-- A path that goes on behind `top` with a slash. -/
structure Inside (family : Family) (top path : List Char) : Prop where
  rooted : Rooted family path
  below : ∃ rest, path = top ++ '/' :: rest ∧ StaysOpen rest

variable {family : Family} {top path : List Char}

/-- Nothing is left to settle. -/
theorem Rooted.settled (h : Rooted family path) : settle family path = path := by
  rw [settle]
  split
  · next hfile =>
    cases h with
    | empty hfamily => exact absurd hfile hfamily
    | root => rfl
    | steps hfirst =>
      have hne := hfirst hfile
      simp [hne]
  · rfl

/-- Settling gives a rooted path of what starts with a slash, and in a URL of a file of any text. -/
theorem rooted_settle (h : family = .file ∨ FromSlash path) :
    Rooted family (settle family path) := by
  rw [settle]
  split
  · have hhead := List.head?_dropWhile_not (· == '/') path
    cases hafter : path.dropWhile (· == '/') with
    | nil => exact .root
    | cons c more =>
      rw [hafter] at hhead
      refine .steps fun _ => ?_
      simpa using hhead
  · next hfamily =>
    obtain ⟨rest, rfl⟩ := h.resolve_left hfamily
    cases rest with
    | nil => exact .root
    | cons c more => exact .steps fun hfile => absurd hfile hfamily

theorem Rooted.fromSlash (h : Rooted family path) (hne : path ≠ []) : FromSlash path := by
  cases h with
  | empty => exact absurd rfl hne
  | root => exact ⟨[], rfl⟩
  | steps => exact ⟨_, rfl⟩

/-- Text without a slash can follow a rooted path. -/
theorem Rooted.append (h : Rooted family path) (hne : path ≠ []) {text : List Char}
    (hslash : '/' ∉ text) : Rooted family (path ++ text) := by
  cases h with
  | empty hfamily => exact absurd rfl hne
  | root =>
    cases text with
    | nil => exact .root
    | cons c more =>
      refine .steps fun _ hc => hslash ?_
      rw [hc]
      exact List.mem_cons_self
  | steps hfirst => exact .steps hfirst

/-- Text without a slash, added behind one, keeps a path inside. -/
theorem Inside.add {q text : List Char} (h : Inside family top (q ++ ['/'])) (hslash : '/' ∉ text)
    (hopen : StaysOpen text) : Inside family top (q ++ '/' :: text) := by
  obtain ⟨hrooted, rest, hrest, hrestOpen⟩ := h
  have hjoin : q ++ '/' :: text = (q ++ ['/']) ++ text := by simp
  have hne : q ++ ['/'] ≠ [] := by simp
  rw [hjoin]
  refine ⟨hrooted.append hne hslash, rest ++ text, ?_, hrestOpen.append hopen⟩
  rw [hrest]
  simp

/-! ## Opening -/

/-- Behind the path a segment can be put inside `top`. -/
def Ready (family : Family) (top path : List Char) : Prop :=
  ∃ q, opened path = q ++ ['/'] ∧ Inside family top (q ++ ['/'])

/-- A path of more than the root gets one more slash. -/
theorem opened_of_long (h : 1 < path.length) : opened path = path ++ ['/'] := by
  rw [opened]
  simp [h]

/-- The slashes that a path is stripped of. -/
theorem exists_stripped (path : List Char) :
    ∃ n, path = stripped path ++ List.replicate n '/' := by
  refine ⟨(path.rtakeWhile (· == '/')).length, ?_⟩
  have hslashes : path.rtakeWhile (· == '/')
      = List.replicate (path.rtakeWhile (· == '/')).length '/' := by
    refine List.eq_replicate_iff.mpr ⟨rfl, fun c hc => ?_⟩
    simpa using List.mem_rtakeWhile_imp hc
  rw [← hslashes]
  exact List.rdropWhile_append_rtakeWhile.symm

/-- A path that is inside stays so when it is opened. -/
theorem Inside.ready (h : Inside family top path) : Ready family top path := by
  obtain ⟨hrooted, rest, hrest, hopen⟩ := h
  cases hrooted with
  | empty hfamily => simp at hrest
  | root => exact ⟨[], rfl, .root, rest, hrest, hopen⟩
  | @steps c more hfirst =>
    refine ⟨'/' :: c :: more, opened_of_long (by simp), .steps hfirst, rest ++ ['/'], ?_,
      hopen.append (staysOpen_slashes 1)⟩
    rw [hrest]
    simp

/-- The same for a path of more than the root, written out. -/
theorem Inside.concat (h : Inside family top path) (hlong : 1 < path.length) :
    Inside family top (path ++ ['/']) := by
  obtain ⟨q, hq, hin⟩ := h.ready
  rw [opened_of_long hlong] at hq
  rw [hq]
  exact hin

/-- A rooted path, opened, is inside itself without the slashes at its end. -/
theorem Rooted.ready (h : Rooted family path) : Ready family (stripped path) path := by
  obtain ⟨n, hn⟩ := exists_stripped path
  cases h with
  | empty hfamily => exact ⟨[], rfl, .root, [], rfl, staysOpen_slashes 0⟩
  | root => exact ⟨[], rfl, .root, [], rfl, staysOpen_slashes 0⟩
  | @steps c rest hfirst =>
    refine ⟨'/' :: c :: rest, opened_of_long (by simp), .steps hfirst, List.replicate n '/', ?_,
      staysOpen_slashes n⟩
    conv_lhs => rw [hn]
    rw [List.append_assoc, ← List.replicate_succ', List.replicate_succ]

/-- The path that segments are put behind, opened, is inside the stripped path. -/
theorem ready_dropEmpty (h : Rooted family path) :
    Ready family (stripped path) (dropEmpty path) := by
  rw [dropEmpty]
  split
  · next hend =>
    cases h with
    | empty hfamily => cases hend
    | root => cases hend
    | @steps c rest hfirst =>
      obtain ⟨before, hbefore⟩ : ∃ before, c :: rest = before ++ ['/'] := by
        rw [endsInSlash, beq_iff_eq] at hend
        exact List.getLast?_eq_some_iff.mp hend
      have hdrop : ('/' :: c :: rest).dropLast = '/' :: before := by
        rw [hbefore, ← List.cons_append, List.dropLast_concat]
      have hstripped : stripped ('/' :: c :: rest) = stripped ('/' :: before) := by
        rw [hbefore, ← List.cons_append]
        exact List.rdropWhile_concat_pos _ _ _ rfl
      have hrooted : Rooted family ('/' :: before) := by
        cases before with
        | nil => exact .root
        | cons d more =>
          obtain ⟨rfl, -⟩ := List.cons.inj hbefore
          exact .steps hfirst
      rw [hdrop, hstripped]
      exact hrooted.ready
  · exact h.ready

/-! ## Segments -/

/-- Nothing that is written for a segment separates segments. -/
theorem slash_not_mem_segmentText (family : Family) (segment : String) :
    '/' ∉ segmentText family segment := by
  cases family with
  | web | file | other => exact Percent.not_mem_encode (by decide) (by decide) (by decide) _

/-- Nothing that is written for a segment closes the path. -/
theorem staysOpen_segmentText (family : Family) (segment : String) :
    StaysOpen (segmentText family segment) := by
  cases family with
  | web | file | other => exact staysOpen_encode rfl rfl _

/-- A name that stands for itself: nothing in it is escaped, it is not made of dots, and no part of
a path takes it for a drive. -/
structure Plain (name : String) : Prop where
  nonempty : name.toList ≠ []
  literal : segmentText .web name = name.toList ∧ segmentText .other name = name.toList
  notDots : isSingleDot name.toList = false ∧ isDoubleDot name.toList = false
  notDrive : isDriveLetter name.toList = false
  notDriveStep : beginsWithDrive ('/' :: name.toList ++ ['/']) = false

instance (name : String) : Decidable (Plain name) :=
  decidable_of_iff
    (name.toList ≠ [] ∧
      (segmentText .web name = name.toList ∧ segmentText .other name = name.toList) ∧
      (isSingleDot name.toList = false ∧ isDoubleDot name.toList = false) ∧
      isDriveLetter name.toList = false ∧ beginsWithDrive ('/' :: name.toList ++ ['/']) = false)
    ⟨fun ⟨h₁, h₂, h₃, h₄, h₅⟩ => ⟨h₁, h₂, h₃, h₄, h₅⟩, fun ⟨h₁, h₂, h₃, h₄, h₅⟩ => ⟨h₁, h₂, h₃, h₄, h₅⟩⟩

namespace Plain

variable {name : String}

theorem segmentText_eq (h : Plain name) (family : Family) :
    segmentText family name = name.toList := by
  cases family with
  | web | file => exact h.literal.1
  | other => exact h.literal.2

theorem slash_not_mem (h : Plain name) : '/' ∉ name.toList := by
  rw [← h.segmentText_eq .web]
  exact slash_not_mem_segmentText .web name

theorem staysOpen (h : Plain name) : StaysOpen name.toList := by
  rw [← h.segmentText_eq .web]
  exact staysOpen_segmentText .web name

/-- A plain name is not one of the two that add nothing. -/
theorem not_skipped (h : Plain name) : ¬ (name = "." ∨ name = "..") := by
  rintro (rfl | rfl)
  · exact absurd h.notDots.1 (by decide)
  · exact absurd h.notDots.2 (by decide)

end Plain

/-! ## Steps -/

/-- A path inside `top` that ends in a name which can be taken away. -/
def Led (family : Family) (top : List Char) (name : String) (path : List Char) : Prop :=
  ∃ q, path = q ++ '/' :: name.toList ∧ Inside family top (q ++ ['/'])

theorem Led.inside {name : String} (h : Led family top name path) (hname : Plain name) :
    Inside family top path := by
  obtain ⟨q, rfl, hq⟩ := h
  exact hq.add hname.slash_not_mem hname.staysOpen

/-- A path that ends in a plain segment is more than the root. -/
theorem Led.long {name : String} (h : Led family top name path) (hname : Plain name) :
    1 < path.length := by
  obtain ⟨q, rfl, -⟩ := h
  have hpos := List.length_pos_of_ne_nil hname.nonempty
  simp only [List.length_append, List.length_cons]
  omega

theorem endsInSlash_concat (path : List Char) : endsInSlash (path ++ ['/']) = true := by
  rw [endsInSlash, List.getLast?_concat]
  rfl

/-- A segment that is not two dots adds to the path, though perhaps not itself. -/
theorem addSegment_adds (family : Family) (q : List Char) {segment : List Char}
    (h : isDoubleDot segment = false) :
    ∃ text, addSegment family (q ++ ['/']) segment false = q ++ '/' :: text ∧
      ∀ c ∈ text, c ∈ segment ∨ c = ':' := by
  have hslash : withSlash (q ++ ['/']) = q ++ ['/'] := if_pos (endsInSlash_concat q)
  unfold addSegment
  simp only [h, Bool.false_eq_true, if_false, List.append_nil, List.append_assoc,
    List.singleton_append]
  split
  · exact ⟨[], hslash, by simp⟩
  · split
    · split
      · refine ⟨_, rfl, fun c hc => ?_⟩
        simp only [List.mem_cons, List.not_mem_nil, or_false] at hc
        rcases hc with rfl | rfl
        · exact Or.inl List.mem_cons_self
        · exact Or.inr rfl
      · exact ⟨_, rfl, fun c hc => Or.inl hc⟩
    · exact ⟨segment, rfl, fun c hc => Or.inl hc⟩

/-- Text of a segment that a path takes as it is: it is not made of dots, and it is no drive. -/
structure Stays (text : List Char) : Prop where
  notDots : isSingleDot text = false ∧ isDoubleDot text = false
  notDrive : isDriveLetter text = false

theorem Plain.stays {name : String} (h : Plain name) : Stays name.toList :=
  ⟨h.notDots, h.notDrive⟩

/-- Text that stays is added as it is. -/
theorem addSegment_stays (family : Family) (q : List Char) {text : List Char} (h : Stays text) :
    addSegment family (q ++ ['/']) text false = q ++ '/' :: text := by
  unfold addSegment
  simp only [h.notDots, h.notDrive, Bool.false_eq_true, if_false, Bool.and_false,
    List.append_nil, List.append_assoc, List.singleton_append]
  split
  · rfl
  · rfl

/-- The last step of a path and what stands before it, when the path is cut from its end. -/
theorem cut_append (q : List Char) {name : List Char} (h : '/' ∉ name) :
    afterSlash (q ++ '/' :: name) = name ∧ upToSlash (q ++ '/' :: name) = q ++ ['/'] := by
  have hname : ∀ c ∈ name.reverse, (c != '/') = true := by
    intro c hc
    simp only [bne_iff_ne, ne_eq]
    rintro rfl
    exact h (List.mem_reverse.mp hc)
  have hreverse : (q ++ '/' :: name).reverse = name.reverse ++ '/' :: q.reverse := by simp
  constructor
  · rw [afterSlash, hreverse, List.takeWhile_append_of_pos hname]
    simp
  · rw [upToSlash, hreverse, List.dropWhile_append_of_pos hname]
    simp

/-- The slash after a plain segment can go. -/
theorem dropSlash_plain (q : List Char) {name : String} (h : Plain name) :
    dropSlash (q ++ '/' :: name.toList ++ ['/']) = q ++ '/' :: name.toList := by
  have hstep := h.notDriveStep
  have hslash : (q ++ '/' :: name.toList).contains '/' = true := by simp
  rw [dropSlash, List.dropLast_concat, (cut_append q h.slash_not_mem).1, hstep,
    endsInSlash_concat, hslash]
  rfl

/-- Two dots take a plain segment away. -/
theorem addSegment_up (family : Family) (q : List Char) {name : String} (h : Plain name)
    {segment : List Char} (hdots : isDoubleDot segment = true) :
    addSegment family (q ++ '/' :: name.toList ++ ['/']) segment false = q ++ ['/'] := by
  have hdrive := h.notDrive
  obtain ⟨hafter, hup⟩ := cut_append q h.slash_not_mem
  unfold addSegment
  simp only [hdots, if_true, Bool.false_eq_true, if_false]
  rw [dropSlash_plain q h, shorten, hafter, hup]
  split
  · next c hname =>
    have hletter : isLetter c = false := by simpa [hname, isDriveLetter] using hdrive
    simp [hletter]
  · rfl

/-- A dot leaves the slash before it. -/
theorem addSegment_dot (family : Family) (q : List Char) {segment : List Char}
    (hdot : isSingleDot segment = true) (hdots : isDoubleDot segment = false) :
    addSegment family (q ++ ['/']) segment false = q ++ ['/'] := by
  unfold addSegment
  simp only [hdots, hdot, Bool.false_eq_true, if_false, if_true]
  rw [withSlash, if_pos (endsInSlash_concat q)]

/-- A plain segment leads a path on. -/
theorem extend_plain {name : String} (hpath : Ready family top path) (hname : Plain name) :
    Led family top name (extend family path name) := by
  obtain ⟨q, hq, hin⟩ := hpath
  have hadded : Inside family top (q ++ '/' :: name.toList) :=
    hin.add hname.slash_not_mem hname.staysOpen
  refine ⟨q, ?_, hin⟩
  rw [extend, if_neg hname.not_skipped, hq, hname.segmentText_eq, addSegment_stays family q hname.stays]
  exact hadded.rooted.settled

/-- Whatever the text of a segment is, it leaves a path inside that ends in a plain segment. -/
theorem extend_free {name : String} (hpath : Led family top name path) (hname : Plain name)
    (segment : String) : Inside family top (extend family path segment) := by
  have hinside := hpath.inside hname
  rw [extend]
  split
  · exact hinside
  -- Tabs and line ends do not count, so that text other than two dots may still be written as two.
  · cases hdots : isDoubleDot (segmentText family segment) with
    | true =>
      have hlong := hpath.long hname
      obtain ⟨q, rfl, hq⟩ := hpath
      rw [opened_of_long hlong, addSegment_up family q hname hdots, hq.rooted.settled]
      exact hq
    | false =>
      obtain ⟨q, hq, hin⟩ := hinside.ready
      obtain ⟨text, htext, hmem⟩ := addSegment_adds family q hdots
      have hadded : Inside family top (q ++ '/' :: text) := by
        refine hin.add (fun hslash => ?_) fun c hc => ?_
        · rcases hmem _ hslash with h | h
          · exact slash_not_mem_segmentText family segment h
          · cases h
        · rcases hmem c hc with h | rfl
          · exact staysOpen_segmentText family segment c h
          · rfl
      rw [hq, htext, hadded.rooted.settled]
      exact hadded

/-- Behind more than the root, a segment is added as it is written unless it is made of dots, also
when it looks like a drive. -/
theorem addSegment_undotted (family : Family) {path text : List Char} (hpath : path ≠ [])
    (hdots : isSingleDot text = false ∧ isDoubleDot text = false) :
    addSegment family (path ++ ['/']) text false = path ++ '/' :: text := by
  have hroot : (path ++ ['/'] == ['/']) = false := by simpa using hpath
  unfold addSegment
  simp only [hdots, hroot, Bool.false_eq_true, if_false, Bool.and_false, Bool.false_and,
    List.append_nil, List.append_assoc, List.singleton_append]
  split
  · rfl
  · rfl

/-- A segment that is not made of dots is put behind a path as it is written. -/
theorem extend_undotted (hpath : Inside family top path) (hlong : 1 < path.length)
    {segment : String} (hdots : isSingleDot (segmentText family segment) = false ∧
      isDoubleDot (segmentText family segment) = false) :
    extend family path segment = path ++ '/' :: segmentText family segment := by
  have hopened : opened path = path ++ ['/'] := opened_of_long hlong
  have hready := hpath.concat hlong
  have hne : path ≠ [] := List.length_pos_iff.mp (by omega)
  have hskipped : ¬ (segment = "." ∨ segment = "..") := by
    rintro (rfl | rfl)
    · have hdot : isSingleDot (segmentText family ".") = true := by cases family <;> decide
      exact Bool.noConfusion (hdot.symm.trans hdots.1)
    · have hdouble : isDoubleDot (segmentText family "..") = true := by cases family <;> decide
      exact Bool.noConfusion (hdouble.symm.trans hdots.2)
  have hadded : Inside family top (path ++ '/' :: segmentText family segment) :=
    hready.add (slash_not_mem_segmentText family segment) (staysOpen_segmentText family segment)
  rw [extend, if_neg hskipped, hopened, addSegment_undotted family hne hdots, hadded.rooted.settled]

/-! ## Runs -/

/-- Plain segments in a row lead a path on to the last of them. -/
theorem led_of_plain (names : List String) {name : String} (hnames : ∀ n ∈ names, Plain n)
    (hname : Plain name) (hpath : Ready family top path) :
    Led family top name ((names ++ [name]).foldl (extend family) path) := by
  induction names generalizing path with
  | nil => exact extend_plain hpath hname
  | cons first rest ih =>
    obtain ⟨hfirst, hrest⟩ := List.forall_mem_cons.mp hnames
    have hnext := (extend_plain hpath hfirst).inside hfirst
    exact ih hrest hnext.ready

/-- Segments of which each of any text follows a plain one; `led` says whether a plain one stands
before all of them. -/
inductive Guided : Bool → List String → Prop where
  | done {led : Bool} : Guided led []
  | plain {led : Bool} {name : String} {rest : List String} (hname : Plain name)
      (h : Guided true rest) : Guided led (name :: rest)
  | free {segment : String} {rest : List String} (h : Guided false rest) :
      Guided true (segment :: rest)

/-- Guided segments keep a path inside. -/
theorem Guided.inside {led : Bool} {segments : List String} (h : Guided led segments)
    (hpath : Inside family top path)
    (hled : led = true → ∃ name, Plain name ∧ Led family top name path) :
    Inside family top (segments.foldl (extend family) path) := by
  induction h generalizing path with
  | done => exact hpath
  | @plain _ name rest hname _ ih =>
    have hnext := extend_plain hpath.ready hname
    exact ih (hnext.inside hname) fun _ => ⟨name, hname, hnext⟩
  | @free segment rest _ ih =>
    obtain ⟨name, hname, hlast⟩ := hled rfl
    exact ih (extend_free hlast hname segment) fun hfalse => nomatch hfalse

/-- Segments put behind a rooted path, a plain one first, lead inside it. -/
theorem inside_of_guided (h : Rooted family path) {name : String} (hname : Plain name)
    {rest : List String} (hrest : Guided true rest) :
    Inside family (stripped path) ((name :: rest).foldl (extend family) (dropEmpty path)) := by
  have hfirst := extend_plain (ready_dropEmpty h) hname
  exact hrest.inside (hfirst.inside hname) fun _ => ⟨name, hname, hfirst⟩

end Url

end Onboarding
