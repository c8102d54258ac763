import Onboarding.Proofs.Csv.Layout
import Onboarding.Proofs.Roster.Padded

/-!
# Rosters that are not text

Which rosters give no records, and which row is named.

* Rows.  `texts_eq_none_iff`: a row is text when all of its fields are, before they are trimmed.
* Rosters.  `FirstFault` names the first row with a field that is not text, and
  `recordsFrom_firstFault` says that it ends the records.
* `Roster.parse_faults` is what holds of every input, with its rows taken from any layout of it.
-/

namespace Onboarding

open Utf8 (IsText)

namespace Csv

/-! ## Rows -/

/-- Trimmed octets have a text when the octets are text. -/
theorem text?_trimOctets_eq_none_iff {octets : Bytes} :
    text? (Text.trimOctets octets) = none ↔ ¬ IsText octets := by
  rw [text?, Option.map_eq_none_iff, Utf8.decode?_eq_none_iff, Utf8.isText_trimOctets]

/-- A row has texts unless one of its fields is not text. -/
theorem Row.texts_eq_none_iff {row : Row} :
    row.texts.toOption = none ↔ ∃ field ∈ row.fields, ¬ IsText field := by
  rw [Row.texts, toOption_textsFrom]
  induction row.fields with
  | nil => simp
  | cons octets fields ih =>
    rw [List.map_cons, List.mapM_cons, List.exists_mem_cons_iff, ← ih, ← text?_trimOctets_eq_none_iff]
    cases text? (Text.trimOctets octets) with
    | none => simp
    | some first => cases (fields.map Text.trimOctets).mapM text? <;> simp

end Csv

namespace Roster

open Csv (Cell LaidOut fieldsOf)

/-! ## Rosters -/

/-- The first of the rows with a field that is not text has `n` rows before it. -/
structure FirstFault (rows : List (List Bytes)) (n : Nat) : Prop where
  before : ∀ fields ∈ rows.take n, ∀ field ∈ fields, IsText field
  fault : ∃ fields, rows[n]? = some fields ∧ ∃ field ∈ fields, ¬ IsText field

variable {rows : List (List Bytes)} {fields : List Bytes} {n : Nat}

theorem firstFault_zero_iff :
    FirstFault (fields :: rows) 0 ↔ ∃ field ∈ fields, ¬ IsText field := by
  constructor
  · rintro ⟨-, first, hfirst, hfault⟩
    rwa [Option.some.inj hfirst]
  · intro hfault
    exact ⟨nofun, fields, rfl, hfault⟩

theorem firstFault_succ_iff :
    FirstFault (fields :: rows) (n + 1) ↔ (∀ field ∈ fields, IsText field) ∧ FirstFault rows n := by
  constructor
  · rintro ⟨hbefore, hfault⟩
    rw [List.take_succ_cons] at hbefore
    obtain ⟨hfields, hrows⟩ := List.forall_mem_cons.mp hbefore
    exact ⟨hfields, hrows, hfault⟩
  · rintro ⟨hfields, hrows, hfault⟩
    refine ⟨?_, hfault⟩
    rw [List.take_succ_cons]
    exact List.forall_mem_cons.mpr ⟨hfields, hrows⟩

/-- No other row is the first. -/
theorem FirstFault.le {m : Nat} (h : FirstFault rows n) (hm : FirstFault rows m) : n ≤ m := by
  by_contra hlt
  obtain ⟨fields, hfields, field, hfield, hfault⟩ := hm.fault
  have hmem : fields ∈ rows.take n := by
    refine List.mem_of_getElem? (i := m) ?_
    rw [List.getElem?_take_of_lt (by omega), hfields]
  exact hfault (h.before fields hmem field hfield)

/-- Some row is the first with a field that is not text, when there is one. -/
theorem exists_firstFault (h : ∃ fields ∈ rows, ∃ field ∈ fields, ¬ IsText field) :
    ∃ n, FirstFault rows n := by
  induction rows with
  | nil => simp at h
  | cons fields rows ih =>
    by_cases hfields : ∃ field ∈ fields, ¬ IsText field
    · exact ⟨0, firstFault_zero_iff.mpr hfields⟩
    · have hrest := (List.exists_mem_cons_iff _ fields rows).mp h
      obtain ⟨n, hn⟩ := ih (hrest.resolve_left hfields)
      simp only [not_exists, not_and, not_not] at hfields
      exact ⟨n + 1, firstFault_succ_iff.mpr ⟨hfields, hn⟩⟩

/-- The first row with a field that is not text ends the records, and is named by its number. -/
theorem recordsFrom_firstFault {rows : List Csv.Row} (h : FirstFault (rows.map Csv.Row.fields) n)
    (done : Nat) : (recordsFrom done rows).mapError RowError.row = .error (done + n + 1) := by
  induction rows generalizing n done with
  | nil =>
    obtain ⟨fields, hfields, -⟩ := h.fault
    simp at hfields
  | cons row rows ih =>
    rw [List.map_cons] at h
    cases n with
    | zero =>
      have htexts := Csv.Row.texts_eq_none_iff.mpr (firstFault_zero_iff.mp h)
      exact recordsFrom_cons_fault htexts done rows
    | succ n =>
      obtain ⟨hrow, hrest⟩ := firstFault_succ_iff.mp h
      cases htexts : row.texts.toOption with
      | none =>
        obtain ⟨field, hfield, hfault⟩ := Csv.Row.texts_eq_none_iff.mp htexts
        exact absurd (hrow field hfield) hfault
      | some texts =>
        rw [recordsFrom_cons_texts htexts, ih hrest (done + 1), Nat.add_right_comm done 1 n]
        rfl

/-- Rows of text give records. -/
theorem recordsFrom_text {rows : List Csv.Row}
    (h : ∀ fields ∈ rows.map Csv.Row.fields, ∀ field ∈ fields, IsText field) (done : Nat) :
    ∃ records, (recordsFrom done rows).mapError RowError.row = .ok records := by
  induction rows generalizing done with
  | nil => exact ⟨[], rfl⟩
  | cons row rows ih =>
    obtain ⟨hrow, hrest⟩ := List.forall_mem_cons.mp h
    cases htexts : row.texts.toOption with
    | none =>
      obtain ⟨field, hfield, hfault⟩ := Csv.Row.texts_eq_none_iff.mp htexts
      exact absurd (hrow field hfield) hfault
    | some texts =>
      obtain ⟨records, hrecords⟩ := ih hrest (done + 1)
      rw [recordsFrom_cons_texts htexts, hrecords]
      exact ⟨_, rfl⟩

/-- The message begins with the number of the row. -/
theorem RowError.exists_message (e : RowError) :
    ∃ cause, e.message = "read input row " ++ toString e.row ++ ": " ++ cause :=
  ⟨_, rfl⟩

theorem parse_of_firstFault {bytes : Bytes} (h : FirstFault ((Csv.rows bytes).map Csv.Row.fields) n) :
    ∃ e, parse bytes = .error e ∧ e.row = n + 1 := by
  have hrow := recordsFrom_firstFault h 0
  rw [← parse, Nat.zero_add] at hrow
  cases hparse : parse bytes with
  | ok records =>
    rw [hparse] at hrow
    cases hrow
  | error e =>
    rw [hparse] at hrow
    exact ⟨e, rfl, Except.error.inj hrow⟩

theorem parse_of_text {bytes : Bytes}
    (h : ∀ fields ∈ (Csv.rows bytes).map Csv.Row.fields, ∀ field ∈ fields, IsText field) :
    ∃ records, parse bytes = .ok records := by
  obtain ⟨records, hrecords⟩ := recordsFrom_text h 0
  rw [← parse] at hrecords
  cases hparse : parse bytes with
  | ok read => exact ⟨read, rfl⟩
  | error e =>
    rw [hparse] at hrecords
    cases hrecords

/-- Which inputs give no records.  Every input has a layout in lines of cells, and for each such
layout, an input fails exactly when some field of some row is not UTF-8, with its quotes taken away;
then it gives no record, and the message names the first such row by its number, where blank lines
are not counted.  An input that is UTF-8 as a whole never fails. -/
theorem parse_faults (bytes : Bytes) :
    (∃ lines, LaidOut bytes lines) ∧
      (∀ lines, LaidOut bytes lines →
        ((∃ e, parse bytes = .error e) ↔
            ∃ fields ∈ fieldsOf lines, ∃ field ∈ fields, ¬ IsText field) ∧
          ∀ e, parse bytes = .error e →
            ∃ n, FirstFault (fieldsOf lines) n ∧ e.row = n + 1 ∧
              ∃ cause, e.message = "read input row " ++ toString (n + 1) ++ ": " ++ cause) ∧
      (IsText bytes → ∃ records, parse bytes = .ok records) := by
  have hread : ∀ lines, LaidOut bytes lines →
      (∃ fields ∈ fieldsOf lines, ∃ field ∈ fields, ¬ IsText field) →
        ∃ n e, FirstFault (fieldsOf lines) n ∧ parse bytes = .error e ∧ e.row = n + 1 := by
    intro lines hlines hfault
    obtain ⟨n, hfirst⟩ := exists_firstFault hfault
    have hrows := hfirst
    rw [← Csv.rows_laidOut hlines] at hrows
    obtain ⟨e, hparse, hrow⟩ := parse_of_firstFault hrows
    exact ⟨n, e, hfirst, hparse, hrow⟩
  have hfails : ∀ lines, LaidOut bytes lines → ∀ e, parse bytes = .error e →
      ∃ fields ∈ fieldsOf lines, ∃ field ∈ fields, ¬ IsText field := by
    intro lines hlines e hparse
    by_contra hnone
    have htext : ∀ fields ∈ (Csv.rows bytes).map Csv.Row.fields, ∀ field ∈ fields, IsText field := by
      rw [Csv.rows_laidOut hlines]
      simpa using hnone
    obtain ⟨records, hrecords⟩ := parse_of_text htext
    rw [hrecords] at hparse
    cases hparse
  refine ⟨Csv.exists_laidOut bytes, fun lines hlines => ⟨⟨?_, ?_⟩, ?_⟩, fun htext => ?_⟩
  · rintro ⟨e, hparse⟩
    exact hfails lines hlines e hparse
  · intro hfault
    obtain ⟨-, e, -, hparse, -⟩ := hread lines hlines hfault
    exact ⟨e, hparse⟩
  · intro e hparse
    obtain ⟨n, failed, hfirst, hfailed, hrow⟩ := hread lines hlines (hfails lines hlines e hparse)
    rw [hparse] at hfailed
    obtain rfl : e = failed := Except.error.inj hfailed
    obtain ⟨cause, hmessage⟩ := e.exists_message
    rw [hrow] at hmessage
    exact ⟨n, hfirst, hrow, cause, hmessage⟩
  · obtain ⟨lines, hlines⟩ := Csv.exists_laidOut bytes
    have hrows := hlines.isText htext
    rw [← Csv.rows_laidOut hlines] at hrows
    exact parse_of_text hrows

/-- Lines with an octet that is not UTF-8 in the third field of the third row.  In the first row the
quotes stand within a character, and two lines are blank. -/
def faultyLines : List (List Cell) :=
  [[.ofBare []],
    [⟨[0xC3], true, [], [0xA9]⟩, .ofBare (Utf8.encode "pw".toList)],
    [.ofBare []],
    [.ofQuoted (Utf8.encode "a\nb".toList), .ofBare (Utf8.encode "x".toList)],
    [.ofBare (Utf8.encode "c".toList), .ofBare (Utf8.encode "d".toList), .ofBare [0xFF]]]

/-- The octets of these lines, behind a byte order mark. -/
def faultyInput : Bytes :=
  Csv.mark ++ [0xA, 0x22, 0xC3, 0x22, 0xA9] ++ Utf8.encode ",pw\r\n\n\"a\nb\",x\nc,d,".toList ++ [0xFF]

theorem faultyInput_laidOut : LaidOut faultyInput faultyLines := by
  refine ⟨⟨Csv.mark, _, .inl rfl, ?_, .line _ .lineFeed (.line _ .both (.line _ .lineFeed
    (.line _ .lineFeed (.last _))))⟩, by decide +kernel⟩
  decide +kernel

theorem faultyInput_firstFault : FirstFault (fieldsOf faultyLines) 2 :=
  ⟨by decide +kernel, _, rfl, by decide +kernel⟩

theorem parse_faults_third :
    LaidOut faultyInput faultyLines ∧
      ∃ e, parse faultyInput = .error e ∧ e.row = 3 ∧
        ∃ cause, e.message = "read input row 3: " ++ cause := by
  obtain ⟨-, hlines, -⟩ := parse_faults faultyInput
  obtain ⟨hfails, hfirst⟩ := hlines faultyLines faultyInput_laidOut
  obtain ⟨e, he⟩ := hfails.mpr (by decide +kernel)
  obtain ⟨n, hn, hrow, cause, hmessage⟩ := hfirst e he
  obtain rfl : n = 2 := Nat.le_antisymm (hn.le faultyInput_firstFault) (faultyInput_firstFault.le hn)
  exact ⟨faultyInput_laidOut, e, he, hrow, cause, hmessage⟩

end Roster

end Onboarding
