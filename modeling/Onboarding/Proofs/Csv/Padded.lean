import Onboarding.Proofs.Csv.Quoted
import Onboarding.Proofs.Text.Trim

/-!
# Cells with padding

A cell may stand between spaces and tabs, which are trimmed from what is read of it.  Behind quotes
that is all that becomes of them.  In front of quotes they come first, so that the cell is a bare
one and its quotes belong to its text.

* Cells.  `Cell.Padded` is a cell with padding around it, and `Cell.value` what is left of it:
  `Cell.trimOctets_field` says that the value is what is read, once both are trimmed.
* Rows.  `fieldsOf_trimmed` is the same for rows, and `valuesOf_tight` leaves the padding around
  quotes out where it only follows them.
-/

namespace Onboarding

namespace Csv

/-! ## Cells -/

/-- The octets of padding: spaces and tabs. -/
def isPadding (b : UInt8) : Bool :=
  b == 0x20 || b == 0x9

theorem isPadding_iff {b : UInt8} : isPadding b ↔ b = 0x20 ∨ b = 0x9 := by
  simp [isPadding]

/-- Padding has no meaning outside quotes. -/
theorem bare_of_isPadding {octets : Bytes} (h : ∀ b ∈ octets, isPadding b) : Bare octets := by
  have hplain : ∀ b, isPadding b → b ≠ quote ∧ b ≠ comma ∧ ¬ isRowEnd b := by
    intro b hb
    rcases isPadding_iff.mp hb with rfl | rfl <;> decide
  refine ⟨fun hfirst => ?_, fun b hb => (hplain b (h b hb)).2⟩
  exact (hplain quote (h quote (List.mem_of_head? hfirst))).1 rfl

/-- Nothing but quotes is added to content in quotes. -/
theorem eq_or_mem_of_mem_quoteContent {content : Bytes} {b : UInt8} (h : b ∈ quoteContent content) :
    b = quote ∨ b ∈ content := by
  rw [quoteContent, List.cons_append, List.mem_cons, List.mem_append, List.mem_singleton,
    List.mem_flatMap] at h
  rcases h with rfl | ⟨a, ha, hb⟩ | rfl
  · exact .inl rfl
  · split at hb
    · exact .inl (by simpa using hb)
    · exact .inr (List.mem_singleton.mp hb ▸ ha)
  · exact .inl rfl

namespace Cell

/-- A cell with padding around it.  Outside its quotes the content holds no octet that closes the
field, and a bare cell does not begin with a quote. -/
structure Padded (c : Cell) : Prop where
  before : ∀ b ∈ c.before, isPadding b
  after : ∀ b ∈ c.after, isPadding b
  unclosed : ¬ c.Opens → ∀ b ∈ c.content, b ≠ comma ∧ ¬ isRowEnd b
  unopened : c.quoted = false → c.before = [] → c.content.head? ≠ some quote

theorem padded_iff {c : Cell} :
    c.Padded ↔ (c.before.all isPadding = true ∧ c.after.all isPadding = true) ∧
      (¬ c.Opens → c.content.all (fun b => b != comma && !isRowEnd b) = true) ∧
        (c.quoted = false → c.before = [] → c.content.head? ≠ some quote) := by
  constructor
  · rintro ⟨hbefore, hafter, hunclosed, hunopened⟩
    exact ⟨⟨by simpa using hbefore, by simpa using hafter⟩, by simpa using hunclosed, hunopened⟩
  · rintro ⟨⟨hbefore, hafter⟩, hunclosed, hunopened⟩
    exact ⟨by simpa using hbefore, by simpa using hafter, by simpa using hunclosed, hunopened⟩

instance (c : Cell) : Decidable c.Padded :=
  decidable_of_iff _ padded_iff.symm

/-- What is left of a cell without its padding: the content, and behind padding the quotes as they
were written. -/
def value (c : Cell) : Bytes :=
  if c.quoted = true ∧ c.before ≠ [] then quoteContent c.content else c.content

/-- The cell without the padding around its quotes. -/
def tight (c : Cell) : Cell :=
  if c.quoted then c.unpadded else c

variable {c : Cell}

/-- All of a cell is its value between its padding. -/
theorem field_eq (c : Cell) : c.field = c.before ++ c.value ++ c.after := by
  by_cases hopens : c.Opens
  · rw [field, if_pos hopens, value, if_neg (fun h => h.2 hopens.2), hopens.2, List.nil_append]
  · rw [field, if_neg hopens, write, value]
    cases hquoted : c.quoted with
    | true =>
      have hbefore : c.before ≠ [] := fun h => hopens ⟨hquoted, h⟩
      simp [hbefore]
    | false => simp

/-- What is read of a padded cell is trimmed like its value. -/
theorem trimOctets_field (h : c.Padded) : Text.trimOctets c.field = Text.trimOctets c.value := by
  have hblank : ∀ b, isPadding b → Text.isBlankOctet b := by
    intro b hb
    rcases isPadding_iff.mp hb with rfl | rfl <;> rfl
  rw [field_eq]
  exact Text.trimBy_padded (fun b hb => hblank b (h.before b hb))
    (fun b hb => hblank b (h.after b hb)) c.value

/-- A padded cell is read back. -/
theorem Padded.reads (h : c.Padded) : c.Reads := by
  have hbefore := bare_of_isPadding h.before
  have hafter := bare_of_isPadding h.after
  refine ⟨fun _ => hafter, fun hopens => ⟨?_, ?_⟩⟩
  · rw [write]
    cases hpad : c.before with
    | cons b more =>
      have hfirst := hbefore.unopened
      rw [hpad] at hfirst
      exact hfirst
    | nil =>
      have hquoted : c.quoted = false := by
        rw [Bool.eq_false_iff]
        exact fun hquoted => hopens ⟨hquoted, hpad⟩
      have hcontent := h.unopened hquoted hpad
      rw [hquoted, List.nil_append]
      cases hhead : c.content with
      | nil => exact hafter.unopened
      | cons b more =>
        rw [hhead] at hcontent
        exact hcontent
  · have hcontent := h.unclosed hopens
    have hquote : quote ≠ comma ∧ ¬ isRowEnd quote := by decide
    have hquoteContent : ∀ b ∈ quoteContent c.content, b ≠ comma ∧ ¬ isRowEnd b := by
      intro b hb
      rcases eq_or_mem_of_mem_quoteContent hb with rfl | hb
      · exact hquote
      · exact hcontent b hb
    rw [write]
    refine List.forall_mem_append.mpr ⟨List.forall_mem_append.mpr ⟨hbefore.unclosed, ?_⟩,
      hafter.unclosed⟩
    split
    · exact hquoteContent
    · exact hcontent

/-- Without the padding around its quotes a cell is padded no more than before. -/
theorem Padded.tight (h : c.Padded) : c.tight.Padded := by
  cases hquoted : c.quoted with
  | true =>
    have hopens : c.unpadded.Opens := ⟨hquoted, rfl⟩
    rw [Cell.tight, if_pos hquoted]
    exact ⟨nofun, nofun, fun hclosed => absurd hopens hclosed,
      fun hbare => nomatch hquoted.symm.trans hbare⟩
  | false =>
    rw [Cell.tight, hquoted, if_neg Bool.false_ne_true]
    exact h

/-- The padding behind quotes is not part of the value. -/
theorem value_tight (h : c.quoted = true → c.before = []) : c.tight.value = c.value := by
  cases hquoted : c.quoted with
  | true => simp [Cell.tight, value, unpadded, hquoted, h hquoted]
  | false => simp [Cell.tight, hquoted]

/-- A cell in quotes begins with one when it is written without padding. -/
theorem write_tight (c : Cell) : c.tight.write = c.write ∨
    (∃ rest, c.tight.write = quote :: rest) ∧ c.write ≠ [] := by
  cases hquoted : c.quoted with
  | true =>
    refine .inr ⟨⟨_, by simp [Cell.tight, write, unpadded, hquoted, quoteContent]; rfl⟩, ?_⟩
    simp [write, hquoted, quoteContent]
  | false => simp [Cell.tight, hquoted]

end Cell

/-! ## Rows -/

/-- The values of a row; a row without octets has none. -/
def valuesOf (cells : List Cell) : List Bytes :=
  if writeCells cells = [] then [] else cells.map Cell.value

/-- Rows of padded cells are read back as their values, once these are trimmed. -/
theorem fieldsOf_trimmed {rows : List (List Cell)} (h : ∀ cells ∈ rows, ∀ c ∈ cells, c.Padded) :
    (fieldsOf rows).map (List.map Text.trimOctets)
      = ((rows.map valuesOf).filter (!·.isEmpty)).map (List.map Text.trimOctets) := by
  induction rows with
  | nil => rfl
  | cons cells rows ih =>
    obtain ⟨hcells, hrows⟩ := List.forall_mem_cons.mp h
    rw [← List.singleton_append, fieldsOf_append, List.map_append, ih hrows, List.map_append,
      List.filter_append, List.map_append]
    congr 1
    by_cases hblank : writeCells cells = []
    · simp [fieldsOf_blank hblank, valuesOf, hblank]
    · have hne : cells ≠ [] := by
        rintro rfl
        exact hblank rfl
      have htrimmed : (cells.map Cell.field).map Text.trimOctets
          = (cells.map Cell.value).map Text.trimOctets := by
        rw [List.map_map, List.map_map]
        exact List.map_congr_left fun c hc => Cell.trimOctets_field (hcells c hc)
      simp only [fieldsOf_filled hblank, valuesOf, if_neg hblank, List.map_cons, List.map_nil,
        htrimmed]
      simp [hne]

/-- Without padding around quotes the same rows are blank. -/
theorem writeCells_tight_eq_nil_iff (cells : List Cell) :
    writeCells (cells.map Cell.tight) = [] ↔ writeCells cells = [] := by
  match cells with
  | [] => rfl
  | [c] =>
    rcases c.write_tight with hsame | ⟨⟨rest, hquote⟩, hne⟩
    · simp [writeCells, hsame]
    · simp [writeCells, hquote, hne]
  | _ :: _ :: _ => simp [writeCells]

/-- The padding behind quotes is not part of the values. -/
theorem valuesOf_tight {cells : List Cell} (h : ∀ c ∈ cells, c.quoted = true → c.before = []) :
    valuesOf (cells.map Cell.tight) = valuesOf cells := by
  have hvalues : (cells.map Cell.tight).map Cell.value = cells.map Cell.value := by
    rw [List.map_map]
    exact List.map_congr_left fun c hc => Cell.value_tight (h c hc)
  simp only [valuesOf, writeCells_tight_eq_nil_iff, hvalues]

/-- A prefix that lacks the octet behind a part is within that part. -/
theorem prefix_of_prefix_append {start part rest : Bytes} {b : UInt8} (hb : b ∉ start)
    (h : start <+: part ++ b :: rest) : start <+: part := by
  have hpart : part ++ [b] <+: part ++ b :: rest := ⟨rest, by simp⟩
  rcases List.prefix_or_prefix_of_prefix h hpart with hwithin | hbeyond
  · rcases List.prefix_concat_iff.mp hwithin with rfl | hwithin
    · exact absurd (by simp) hb
    · exact hwithin
  · exact absurd (hbeyond.subset (by simp)) hb

/-- A byte order mark in front of cells without padding around quotes is in front of the padded
ones. -/
theorem mark_prefix_writeCells {cells : List Cell}
    (h : mark <+: writeCells (cells.map Cell.tight)) : mark <+: writeCells cells := by
  have hcell : ∀ c : Cell, mark <+: c.tight.write → mark <+: c.write := by
    intro c hc
    rcases c.write_tight with hsame | ⟨⟨rest, hquote⟩, -⟩
    · rwa [hsame] at hc
    · rw [hquote] at hc
      exact absurd (List.cons_prefix_cons.mp hc).1 (by decide)
  match cells with
  | [] => exact h
  | [c] => exact hcell c h
  | c :: d :: more =>
    have hfirst := prefix_of_prefix_append (by decide : comma ∉ mark) h
    exact (hcell c hfirst).trans (List.prefix_append _ _)

/-- Rows without the padding around quotes. -/
def tightRows (rows : List (List Cell × RowEnd)) : List (List Cell × RowEnd) :=
  rows.map fun row => (row.1.map Cell.tight, row.2)

/-- What stands in front of rows can stand there without the padding around quotes. -/
theorem Fronts.tight {rows : List (List Cell × RowEnd)} {last : Option (List Cell)} {front : Bytes}
    (h : Fronts front (writeRows rows last)) :
    Fronts front (writeRows (tightRows rows) (last.map (List.map Cell.tight))) := by
  refine h.imp_right (And.imp_right fun hmark htight => hmark ?_)
  cases rows with
  | nil =>
    cases last with
    | none => exact htight
    | some cells => exact mark_prefix_writeCells htight
  | cons row rows =>
    have hend : ∃ b more, row.2.write = b :: more ∧ b ∉ mark := by
      cases row.2 <;> exact ⟨_, _, rfl, by decide⟩
    obtain ⟨b, more, hwrite, hb⟩ := hend
    rw [tightRows, List.map_cons, writeRows, hwrite, List.append_assoc, List.cons_append] at htight
    have hcells := mark_prefix_writeCells (prefix_of_prefix_append hb htight)
    rw [writeRows, List.append_assoc]
    exact hcells.trans (List.prefix_append _ _)

end Csv

end Onboarding
