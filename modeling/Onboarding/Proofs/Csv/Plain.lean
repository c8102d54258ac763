import Mathlib.Data.List.Basic
import Onboarding.Csv.Plain
import Onboarding.Proofs.Csv.Written
import Onboarding.Proofs.Text.Split

/-!
# Rows without quotes

Input that holds no quote is read as the plain format: it is cut at every row end and at every
comma, and the lines that hold nothing are no rows.

* Lines.  `lineCells` is a line as bare cells, and `exists_writeRows` says that any octets are the
  writing of their lines.
* Rows.  `rows_unquoted` reads the octets, and `rows_encode_plain` text in UTF-8.
-/

namespace Onboarding

namespace Csv

/-! ## Lines -/

/-- A field that is written as it is. -/
def Cell.ofBare (octets : Bytes) : Cell :=
  ⟨octets, false, [], []⟩

theorem Cell.write_ofBare (octets : Bytes) : (ofBare octets).write = octets :=
  List.append_nil octets

theorem Cell.not_opens_ofBare (octets : Bytes) : ¬ (ofBare octets).Opens :=
  nofun

theorem Cell.field_ofBare (octets : Bytes) : (ofBare octets).field = octets := by
  rw [field, if_neg (not_opens_ofBare octets), write_ofBare]

theorem Cell.reads_ofBare {octets : Bytes} (h : Bare octets) : (ofBare octets).Reads := by
  refine ⟨fun hopens => absurd hopens (not_opens_ofBare octets), fun _ => ?_⟩
  rw [write_ofBare]
  exact h

/-- The fields of a line: what stands between commas. -/
def lineFields (line : Bytes) : List Bytes :=
  Split.pieces (· == comma) line

/-- A line as bare cells. -/
def lineCells (line : Bytes) : List Cell :=
  (lineFields line).map Cell.ofBare

/-- A line is the writing of its cells. -/
theorem writeCells_lineCells (line : Bytes) : writeCells (lineCells line) = line := by
  induction line with
  | nil => rfl
  | cons b line ih =>
    obtain ⟨first, more, hfields⟩ := List.exists_cons_of_ne_nil (Split.pieces_ne_nil (· == comma) line)
    rw [lineCells, lineFields, hfields, List.map_cons] at ih
    by_cases hb : b = comma
    · rw [lineCells, lineFields, Split.pieces_sep (by simpa using hb), hfields, List.map_cons,
        List.map_cons, writeCells, ih, hb]
      · rfl
      · simp
    · rw [lineCells, lineFields, Split.pieces_other (by simpa using hb) hfields, List.map_cons]
      cases more with
      | nil =>
        rw [List.map_nil, writeCells, Cell.write_ofBare] at ih
        rw [List.map_nil, writeCells, Cell.write_ofBare, ih]
      | cons next more =>
        rw [List.map_cons, writeCells, Cell.write_ofBare] at ih
        · rw [List.map_cons, writeCells, Cell.write_ofBare, List.cons_append, ih]
          simp
        · simp

theorem map_field_lineCells (line : Bytes) : (lineCells line).map Cell.field = lineFields line := by
  rw [lineCells, List.map_map]
  exact List.map_id'' Cell.field_ofBare _

/-- The row end that an octet is. -/
theorem exists_rowEnd {b : UInt8} (h : isRowEnd b) : ∃ rowEnd : RowEnd, rowEnd.write = [b] := by
  rcases Reader.isRowEnd_iff.mp h with rfl | rfl
  · exact ⟨.lineFeed, rfl⟩
  · exact ⟨.carriageReturn, rfl⟩

/-- Octets are the writing of their lines. -/
theorem exists_writeRows (octets : Bytes) :
    ∃ rowList last, writeRows rowList (some last) = octets ∧
      rowList.map Prod.fst ++ [last] = (Split.pieces isRowEnd octets).map lineCells := by
  induction octets with
  | nil => exact ⟨[], lineCells [], rfl, rfl⟩
  | cons b octets ih =>
    obtain ⟨rowList, last, hwrite, hlines⟩ := ih
    by_cases hb : isRowEnd b
    · obtain ⟨rowEnd, hend⟩ := exists_rowEnd hb
      refine ⟨(lineCells [], rowEnd) :: rowList, last, ?_, ?_⟩
      · rw [writeRows, writeCells_lineCells, hend, hwrite]
        rfl
      · rw [Split.pieces_sep hb]
        exact congrArg (lineCells [] :: ·) hlines
    · -- The octet goes in front of the first line, which has an end or is the last one.
      obtain ⟨first, more, hpieces⟩ :=
        List.exists_cons_of_ne_nil (Split.pieces_ne_nil isRowEnd octets)
      rw [Split.pieces_other hb hpieces]
      rw [hpieces, List.map_cons] at hlines
      cases rowList with
      | nil =>
        obtain ⟨rfl, hmore⟩ := List.cons.inj hlines
        refine ⟨[], lineCells (b :: first), ?_, congrArg (lineCells (b :: first) :: ·) hmore⟩
        rw [writeRows, writeCells_lineCells] at hwrite ⊢
        rw [hwrite]
      | cons row rowList =>
        obtain ⟨cells, rowEnd⟩ := row
        obtain ⟨rfl, hmore⟩ := List.cons.inj hlines
        refine ⟨(lineCells (b :: first), rowEnd) :: rowList, last, ?_,
          congrArg (lineCells (b :: first) :: ·) hmore⟩
        rw [writeRows, writeCells_lineCells] at hwrite ⊢
        rw [← hwrite]
        rfl

/-! ## Rows -/

/-- Octets without quotes are cut at row ends and commas. -/
theorem rows_unquoted {octets : Bytes} (hquote : quote ∉ octets) (hmark : ¬ mark <+: octets) :
    (rows octets).map Row.fields
      = ((Split.pieces isRowEnd octets).filter (!·.isEmpty)).map lineFields := by
  obtain ⟨rowList, last, hwrite, hlines⟩ := exists_writeRows octets
  have hreads : ∀ cells ∈ rowList.map Prod.fst ++ (some last).toList, ∀ c ∈ cells, c.Reads := by
    intro cells hcells c hc
    rw [Option.toList_some, hlines] at hcells
    obtain ⟨line, hline, rfl⟩ := List.mem_map.mp hcells
    obtain ⟨field, hfield, rfl⟩ := List.mem_map.mp hc
    refine Cell.reads_ofBare ⟨fun hfirst => ?_, fun b hb => ?_⟩
    · have hmem := (Split.not_sep_of_mem hfield quote (List.mem_of_head? hfirst)).1
      exact hquote (Split.not_sep_of_mem hline quote hmem).1
    · obtain ⟨hmem, hcomma⟩ := Split.not_sep_of_mem hfield b hb
      exact ⟨by simpa using hcomma, (Split.not_sep_of_mem hline b hmem).2⟩
  have hfront : Fronts [] (writeRows rowList (some last)) := .inr ⟨rfl, by rwa [hwrite]⟩
  have hrows := rows_written hfront hreads
  rw [List.nil_append, hwrite, Option.toList_some, hlines, fieldsOf, List.filter_map,
    List.map_map] at hrows
  rw [hrows]
  simp only [Function.comp_def, writeCells_lineCells, map_field_lineCells]

/-- Text begins with a byte order mark when its octets do. -/
theorem head?_of_mark {text : List Char} (h : mark <+: Utf8.encode text) :
    text.head? = some '\uFEFF' := by
  obtain ⟨rest, hrest⟩ := h
  have hscan := Utf8.scan_encode text
  have hmark : mark = String.utf8EncodeChar '\uFEFF' := rfl
  rw [← hrest, Utf8.scan, hmark, Utf8.scanFrom_encodeChar] at hscan
  cases text with
  | nil => cases hscan
  | cons c text =>
    rw [List.head?_cons, ← Option.some.inj (List.cons.inj hscan).1]

/-- Text without quotes is cut at line ends and commas. -/
theorem rows_encode_plain {text : List Char} (hquote : '"' ∉ text)
    (hmark : text.head? ≠ some '\uFEFF') :
    (rows (Utf8.encode text)).map Row.fields
      = (((Split.pieces (fun c => c == '\n' || c == '\r') text).filter (!·.isEmpty)).map
          (Split.pieces (· == ','))).map (List.map Utf8.encode) := by
  have hoctets : quote ∉ Utf8.encode text := by
    intro hmem
    obtain ⟨c, hc, hb⟩ := List.mem_flatMap.mp hmem
    have hchar : quote = quote ↔ c = '"' := Utf8.octet_eq_iff hb '"' (by decide)
    exact hquote (hchar.mp rfl ▸ hc)
  have hends : Split.pieces isRowEnd (Utf8.encode text)
      = (Split.pieces (fun c => c == '\n' || c == '\r') text).map Utf8.encode := by
    refine Split.pieces_encode (fun c hc => ?_) (fun c b hb => ?_) text
    · simp only [Bool.or_eq_true, beq_iff_eq] at hc
      rcases hc with rfl | rfl <;> decide
    · have hfeed : b = 0xA ↔ c = '\n' := Utf8.octet_eq_iff hb '\n' (by decide)
      have hreturn : b = 0xD ↔ c = '\r' := Utf8.octet_eq_iff hb '\r' (by decide)
      rw [Bool.eq_iff_iff, Reader.isRowEnd_iff]
      simp only [Bool.or_eq_true, beq_iff_eq]
      exact or_congr hfeed hreturn
  have hcommas : ∀ line, lineFields (Utf8.encode line)
      = (Split.pieces (· == ',') line).map Utf8.encode := by
    refine Split.pieces_encode (fun c hc => ?_) (fun c b hb => ?_)
    · obtain rfl := beq_iff_eq.mp hc
      decide
    · have hcomma : b = comma ↔ c = ',' := Utf8.octet_eq_iff hb ',' (by decide)
      rw [Bool.eq_iff_iff, beq_iff_eq, beq_iff_eq]
      exact hcomma
  have hempty : ∀ line : List Char, (Utf8.encode line).isEmpty = line.isEmpty := by
    intro line
    cases line with
    | nil => rfl
    | cons c line =>
      have hne : Utf8.encode (c :: line) ≠ [] := by simp
      rw [List.isEmpty_eq_false_iff.mpr hne]
      rfl
  rw [rows_unquoted hoctets (fun h => hmark (head?_of_mark h)), hends, List.filter_map, List.map_map,
    List.map_map]
  simp only [Function.comp_def, hempty, hcommas]

end Csv

end Onboarding
