import Mathlib.Data.List.Basic
import Onboarding.Proofs.Csv.Plain
import Onboarding.Proofs.Csv.Quoted
import Onboarding.Proofs.Text.Valid

/-!
# Layouts

Any octets can be taken for written rows, so that what is read of them can be said without the
reader.

* Layouts.  `Layout` lays octets out in lines of cells, of which the last line may end within
  quotes, and `LaidOut` sets a byte order mark aside and asks that every cell reads.
* Reading.  `rows_laidOut`: what is read is the fields of the cells, line by line, the blank lines
  apart.
* Existence.  `exists_cell` cuts one cell off, and `exists_laidOut` goes on with what is behind it.
* Text.  `LaidOut.isText`: the fields of text are text.
-/

namespace Onboarding

namespace Csv

open Reader
open Utf8 (IsText)

/-! ## Layouts -/

/-- Content with the quotes in it written twice. -/
def doubled (content : Bytes) : Bytes :=
  content.flatMap (fun b => if b = quote then [quote, quote] else [b])

theorem quoteContent_eq (content : Bytes) :
    quoteContent content = quote :: doubled content ++ [quote] := rfl

/-- The octets of a row that ends within the quotes of its last field. -/
def writeOpen (cells : List Cell) (content : Bytes) : Bytes :=
  cells.flatMap (fun c => c.write ++ [comma]) ++ quote :: doubled content

/-- Octets that are laid out in lines of cells.  Every line but the last has an end, and the last
has none; it may also lack the closing quote of its last cell. -/
inductive Layout : Bytes → List (List Cell) → Prop where
  | last (cells : List Cell) : Layout (writeCells cells) [cells]
  | unclosed (cells : List Cell) (content : Bytes) :
      Layout (writeOpen cells content) [cells ++ [Cell.ofQuoted content]]
  | line (cells : List Cell) (rowEnd : RowEnd) {octets : Bytes} {lines : List (List Cell)}
      (rest : Layout octets lines) :
      Layout (writeCells cells ++ rowEnd.write ++ octets) (cells :: lines)

/-- An input that is laid out in lines behind what stands in front of it, in cells that read. -/
structure LaidOut (input : Bytes) (lines : List (List Cell)) : Prop where
  octets : ∃ front octets, Fronts front octets ∧ input = front ++ octets ∧ Layout octets lines
  reads : ∀ cells ∈ lines, ∀ c ∈ cells, c.Reads

instance (c : Cell) : Decidable c.Reads :=
  decidable_of_iff ((c.Opens → Bare c.after) ∧ (¬ c.Opens → Bare c.write))
    ⟨fun h => ⟨h.1, h.2⟩, fun h => ⟨h.1, h.2⟩⟩

variable {mode : Mode} {octets input : Bytes} {lines : List (List Cell)} {cells : List Cell}

theorem writeOpen_cons (c : Cell) (cells : List Cell) (content : Bytes) :
    writeOpen (c :: cells) content = c.write ++ comma :: writeOpen cells content := by
  simp [writeOpen]

theorem writeCells_cons (c : Cell) (h : cells ≠ []) :
    writeCells (c :: cells) = c.write ++ comma :: writeCells cells := by
  cases cells with
  | nil => exact absurd rfl h
  | cons d more => rfl

theorem Layout.ne_nil (h : Layout octets lines) : lines ≠ [] := by
  cases h <;> simp

/-- A cell goes in front of the first line. -/
theorem Layout.cell (h : Layout octets (cells :: lines)) (hne : cells ≠ []) (c : Cell) :
    Layout (c.write ++ comma :: octets) ((c :: cells) :: lines) := by
  generalize hlines : cells :: lines = all at h
  cases h with
  | last =>
    obtain ⟨rfl, rfl⟩ := List.cons.inj hlines
    rw [← writeCells_cons c hne]
    exact .last (c :: cells)
  | unclosed closed content =>
    obtain ⟨rfl, rfl⟩ := List.cons.inj hlines
    rw [← writeOpen_cons]
    exact .unclosed (c :: closed) content
  | line first rowEnd rest =>
    obtain ⟨rfl, rfl⟩ := List.cons.inj hlines
    have hline := Layout.line (c :: cells) rowEnd rest
    rw [writeCells_cons c hne] at hline
    simpa using hline

/-! ## Reading -/

/-- A row that ends within quotes is read as if they were closed. -/
theorem cells_writeOpen (h : mode = .rowStart ∨ mode = .fieldStart) (hreads : ∀ c ∈ cells, c.Reads)
    (content : Bytes) (fields : List Bytes) :
    (opened mode [] fields).cells (writeOpen cells content)
      = [fields.reverse ++ (cells ++ [Cell.ofQuoted content]).map Cell.field] := by
  induction cells generalizing mode fields with
  | nil =>
    have hopen : Mode.quoted ≠ .rowStart := nofun
    have hcontent := cells_content content [] fields []
    rw [List.append_nil, List.append_nil] at hcontent
    rw [writeOpen, List.flatMap_nil, List.nil_append, cells_quote h, doubled, hcontent, cells_nil hopen]
    simp [closed, Cell.field_ofQuoted]
  | cons c cells ih =>
    obtain ⟨hc, hcells⟩ := List.forall_mem_cons.mp hreads
    obtain ⟨next, hnext, -, hcell⟩ := cells_cell h hc fields
    rw [writeOpen_cons, hcell, cells_comma hnext, List.reverse_reverse, ih (.inr rfl) hcells]
    simp

theorem writeCells_ofQuoted_ne_nil (cells : List Cell) (content : Bytes) :
    writeCells (cells ++ [Cell.ofQuoted content]) ≠ [] := by
  cases cells with
  | nil => simp [writeCells, Cell.write, Cell.ofQuoted, quoteContent]
  | cons c cells =>
    rw [List.cons_append, writeCells_cons c (by simp)]
    simp

theorem cells_layout (h : Layout octets lines) (hreads : ∀ cells ∈ lines, ∀ c ∈ cells, c.Reads) :
    (opened .rowStart [] []).cells octets = fieldsOf lines := by
  induction h with
  | last cells => exact cells_lastRow (hreads cells List.mem_cons_self)
  | unclosed cells content =>
    have hcells : ∀ c ∈ cells, c.Reads :=
      fun c hc => hreads _ List.mem_cons_self c (List.mem_append_left _ hc)
    rw [cells_writeOpen (.inl rfl) hcells, fieldsOf_filled (writeCells_ofQuoted_ne_nil cells content)]
    rfl
  | @line cells rowEnd octets lines _ ih =>
    obtain ⟨hcells, hlines⟩ := List.forall_mem_cons.mp hreads
    rw [cells_row hcells, ih hlines, ← fieldsOf_append]
    rfl

/-- What is read of an input is the fields of its cells, line by line, the blank lines apart. -/
theorem rows_laidOut (h : LaidOut input lines) : (rows input).map Row.fields = fieldsOf lines := by
  obtain ⟨front, octets, hfront, rfl, hlayout⟩ := h.octets
  rcases hfront with rfl | ⟨rfl, hmark⟩
  · rw [rows_mark, cells_layout hlayout h.reads]
  · rw [List.nil_append, rows_unmarked hmark, cells_layout hlayout h.reads]

/-! ## Existence -/

/-- What comes first up to a comma or a row end. -/
theorem exists_run (octets : Bytes) :
    ∃ run rest, octets = run ++ rest ∧ (∀ b ∈ run, b ≠ comma ∧ ¬ isRowEnd b) ∧
      ∀ b ∈ rest.head?, b = comma ∨ isRowEnd b := by
  refine ⟨octets.takeWhile (fun b => b != comma && !isRowEnd b),
    octets.dropWhile (fun b => b != comma && !isRowEnd b), List.takeWhile_append_dropWhile.symm,
    fun b hb => ?_, fun b hb => ?_⟩
  · simpa using List.mem_takeWhile_imp hb
  · have hstop := List.head?_dropWhile_not (fun b => b != comma && !isRowEnd b) octets
    rw [Option.mem_def.mp hb] at hstop
    simpa [or_iff_not_imp_left] using hstop

/-- What comes within quotes: content up to a quote that is not doubled, or to the end. -/
theorem exists_content : ∀ octets : Bytes,
    (∃ content, octets = doubled content) ∨
      ∃ content rest, octets = doubled content ++ quote :: rest ∧ rest.head? ≠ some quote
  | [] => .inl ⟨[], rfl⟩
  | b :: octets => by
    by_cases hb : b = quote
    · match octets with
      | [] => exact .inr ⟨[], [], by simp [hb, doubled], nofun⟩
      | c :: octets =>
        by_cases hc : c = quote
        · rcases exists_content octets with ⟨content, rfl⟩ | ⟨content, rest, rfl, hrest⟩
          · exact .inl ⟨quote :: content, by simp [doubled, hb, hc]⟩
          · exact .inr ⟨quote :: content, rest, by simp [doubled, hb, hc], hrest⟩
        · exact .inr ⟨[], c :: octets, by simp [hb, doubled], by simpa using hc⟩
    · rcases exists_content octets with ⟨content, rfl⟩ | ⟨content, rest, rfl, hrest⟩
      · exact .inl ⟨b :: content, by simp [doubled, hb]⟩
      · exact .inr ⟨b :: content, rest, by simp [doubled, hb], hrest⟩

/-- What comes first is a cell that reads, up to a comma or a row end, or the quotes of one that is
not closed. -/
theorem exists_cell (octets : Bytes) :
    (∃ content, octets = quote :: doubled content) ∨
      ∃ (c : Cell) (rest : Bytes), c.Reads ∧ octets = c.write ++ rest ∧
        ∀ b ∈ rest.head?, b = comma ∨ isRowEnd b := by
  by_cases hquote : octets.head? = some quote
  · obtain ⟨more, rfl⟩ := List.head?_eq_some_iff.mp hquote
    rcases exists_content more with ⟨content, rfl⟩ | ⟨content, behind, rfl, hbehind⟩
    · exact .inl ⟨content, rfl⟩
    · obtain ⟨run, rest, rfl, hrun, hrest⟩ := exists_run behind
      have hbare : Bare run := by
        refine ⟨fun hfirst => hbehind ?_, hrun⟩
        rw [List.head?_append, hfirst, Option.some_or]
      refine .inr ⟨⟨content, true, [], run⟩, rest, ⟨fun _ => hbare, fun h => absurd ⟨rfl, rfl⟩ h⟩, ?_,
        hrest⟩
      simp [Cell.write, quoteContent_eq]
  · obtain ⟨run, rest, rfl, hrun, hrest⟩ := exists_run octets
    have hbare : Bare run := by
      refine ⟨fun hfirst => hquote ?_, hrun⟩
      rw [List.head?_append, hfirst, Option.some_or]
    refine .inr ⟨Cell.ofBare run, rest, Cell.reads_ofBare hbare, ?_, hrest⟩
    rw [Cell.write_ofBare]

/-- Any octets have a layout in cells that read. -/
theorem exists_layout (octets : Bytes) :
    ∃ lines, Layout octets lines ∧ ∀ cells ∈ lines, cells ≠ [] ∧ ∀ c ∈ cells, c.Reads := by
  induction hlength : octets.length using Nat.strong_induction_on generalizing octets with
  | h length ih =>
    rcases exists_cell octets with ⟨content, rfl⟩ | ⟨c, rest, hc, rfl, hrest⟩
    · refine ⟨[[Cell.ofQuoted content]], .unclosed [] content,
        List.forall_mem_singleton.mpr ⟨by simp, ?_⟩⟩
      exact List.forall_mem_singleton.mpr (Cell.reads_ofQuoted content)
    · have hone : [c] ≠ [] ∧ ∀ d ∈ [c], d.Reads := ⟨by simp, List.forall_mem_singleton.mpr hc⟩
      cases rest with
      | nil =>
        rw [List.append_nil]
        exact ⟨[[c]], .last [c], List.forall_mem_singleton.mpr hone⟩
      | cons b more =>
        have hshort : more.length < length := by
          rw [← hlength, List.length_append, List.length_cons]
          omega
        obtain ⟨all, hlayout, hall⟩ := ih more.length hshort more rfl
        obtain ⟨cells, lines, rfl⟩ := List.exists_cons_of_ne_nil hlayout.ne_nil
        obtain ⟨⟨hne, hcells⟩, hlines⟩ := List.forall_mem_cons.mp hall
        rcases hrest b rfl with rfl | hend
        · refine ⟨(c :: cells) :: lines, hlayout.cell hne c,
            List.forall_mem_cons.mpr ⟨⟨by simp, ?_⟩, hlines⟩⟩
          exact List.forall_mem_cons.mpr ⟨hc, hcells⟩
        · obtain ⟨rowEnd, hwrite⟩ := exists_rowEnd hend
          have hline := Layout.line [c] rowEnd hlayout
          rw [hwrite, List.append_assoc, List.singleton_append] at hline
          exact ⟨[c] :: cells :: lines, hline, List.forall_mem_cons.mpr ⟨hone, hall⟩⟩

/-- Any input is laid out in cells that read. -/
theorem exists_laidOut (input : Bytes) : ∃ lines, LaidOut input lines := by
  obtain ⟨front, octets, hfront, hinput⟩ :
      ∃ front octets, Fronts front octets ∧ input = front ++ octets := by
    by_cases hmark : mark <+: input
    · obtain ⟨rest, hrest⟩ := hmark
      exact ⟨mark, rest, .inl rfl, hrest.symm⟩
    · exact ⟨[], input, .inr ⟨rfl, hmark⟩, rfl⟩
  obtain ⟨lines, hlayout, hlines⟩ := exists_layout octets
  exact ⟨lines, ⟨front, octets, hfront, hinput, hlayout⟩, fun cells hcells => (hlines cells hcells).2⟩

/-! ## Text -/

theorem quote_ascii : quote.toNat < 0x80 := by
  decide

theorem comma_ascii : comma.toNat < 0x80 := by
  decide

/-- Content is read without a gap when it is with its quotes doubled. -/
theorem scanFrom_doubled {state : Utf8.State} (hstate : state.Awaits) {content : Bytes}
    (h : none ∉ Utf8.scanFrom state (doubled content)) : none ∉ Utf8.scanFrom state content := by
  induction content generalizing state with
  | nil => exact h
  | cons b content ih =>
    by_cases hb : b = quote
    · have hwritten : doubled (b :: content) = quote :: quote :: doubled content := by
        simp [doubled, hb]
      have hstart : Utf8.State.between.Awaits := trivial
      rw [hwritten, Utf8.none_notMem_ascii hstate quote_ascii, Utf8.scan,
        Utf8.none_notMem_ascii hstart quote_ascii] at h
      rw [hb, Utf8.none_notMem_ascii hstate quote_ascii]
      exact ⟨h.1, ih hstart h.2.2⟩
    · have hwritten : doubled (b :: content) = b :: doubled content := by
        simp [doubled, hb]
      rw [hwritten, Utf8.scanFrom, List.mem_append, not_or] at h
      rw [Utf8.scanFrom, List.mem_append, not_or]
      exact ⟨h.1, ih (Utf8.awaits_feed hstate b) h.2⟩

/-- Content is text when it is with its quotes doubled. -/
theorem isText_of_doubled {content : Bytes} (h : IsText (doubled content)) : IsText content := by
  have hstart : Utf8.State.between.Awaits := trivial
  exact Utf8.isText_iff.mpr (scanFrom_doubled hstart (Utf8.isText_iff.mp h))

/-- The field of a cell is text when what is written is. -/
theorem Cell.isText_field {c : Cell} (h : IsText c.write) : IsText c.field := by
  by_cases hopens : c.Opens
  · have hwrite : c.write = quote :: (doubled c.content ++ quote :: c.after) := by
      simp [Cell.write, hopens.1, hopens.2, quoteContent_eq]
    rw [hwrite, Utf8.isText_cons quote_ascii, Utf8.isText_append_cons quote_ascii] at h
    rw [Cell.field, if_pos hopens]
    exact (isText_of_doubled h.1).append h.2
  · rwa [Cell.field, if_neg hopens]

/-- The fields of a row are text when the row is. -/
theorem isText_of_writeCells (h : IsText (writeCells cells)) : ∀ c ∈ cells, IsText c.field := by
  induction cells with
  | nil => exact nofun
  | cons c cells ih =>
    cases cells with
    | nil => exact List.forall_mem_singleton.mpr (Cell.isText_field h)
    | cons d more =>
      rw [writeCells_cons c (by simp), Utf8.isText_append_cons comma_ascii] at h
      exact List.forall_mem_cons.mpr ⟨Cell.isText_field h.1, ih h.2⟩

theorem isText_of_writeOpen {content : Bytes} (h : IsText (writeOpen cells content)) :
    ∀ c ∈ cells ++ [Cell.ofQuoted content], IsText c.field := by
  induction cells with
  | nil =>
    rw [writeOpen, List.flatMap_nil, List.nil_append, Utf8.isText_cons quote_ascii] at h
    refine List.forall_mem_singleton.mpr ?_
    rw [Cell.field_ofQuoted]
    exact isText_of_doubled h
  | cons c cells ih =>
    rw [writeOpen_cons, Utf8.isText_append_cons comma_ascii] at h
    exact List.forall_mem_cons.mpr ⟨Cell.isText_field h.1, ih h.2⟩

/-- A row end between octets is text of its own. -/
theorem isText_of_rowEnd {front rest : Bytes} {rowEnd : RowEnd}
    (h : IsText (front ++ rowEnd.write ++ rest)) : IsText front ∧ IsText rest := by
  have hfeed : (0xA : UInt8).toNat < 0x80 := by decide
  have hreturn : (0xD : UInt8).toNat < 0x80 := by decide
  rw [List.append_assoc] at h
  cases rowEnd with
  | lineFeed => exact (Utf8.isText_append_cons hfeed front rest).mp h
  | carriageReturn => exact (Utf8.isText_append_cons hreturn front rest).mp h
  | both =>
    obtain ⟨hfront, hbehind⟩ := (Utf8.isText_append_cons hreturn front (0xA :: rest)).mp h
    exact ⟨hfront, (Utf8.isText_cons hfeed rest).mp hbehind⟩

theorem Layout.isText (h : Layout octets lines) (htext : IsText octets) :
    ∀ cells ∈ lines, ∀ c ∈ cells, IsText c.field := by
  induction h with
  | last cells => exact List.forall_mem_singleton.mpr (isText_of_writeCells htext)
  | unclosed cells content => exact List.forall_mem_singleton.mpr (isText_of_writeOpen htext)
  | line cells rowEnd _ ih =>
    obtain ⟨hcells, hrest⟩ := isText_of_rowEnd htext
    exact List.forall_mem_cons.mpr ⟨isText_of_writeCells hcells, ih hrest⟩

/-- A byte order mark in front of text is text, and so is what is behind it. -/
theorem isText_of_mark {rest : Bytes} (h : IsText (mark ++ rest)) : IsText rest := by
  have hmark : mark = String.utf8EncodeChar '\uFEFF' := rfl
  rw [Utf8.isText_iff, Utf8.scan, hmark, Utf8.scanFrom_encodeChar] at h
  exact Utf8.isText_iff.mpr fun hgap => h (List.mem_cons_of_mem _ hgap)

/-- The fields of text are text. -/
theorem LaidOut.isText (h : LaidOut input lines) (htext : IsText input) :
    ∀ fields ∈ fieldsOf lines, ∀ field ∈ fields, IsText field := by
  obtain ⟨front, octets, hfront, rfl, hlayout⟩ := h.octets
  have hoctets : IsText octets := by
    rcases hfront with rfl | ⟨rfl, -⟩
    · exact isText_of_mark htext
    · exact htext
  intro fields hfields field hfield
  obtain ⟨cells, hcells, rfl⟩ := List.mem_map.mp hfields
  obtain ⟨c, hc, rfl⟩ := List.mem_map.mp hfield
  exact hlayout.isText hoctets cells (List.mem_of_mem_filter hcells) c hc

end Csv

end Onboarding
