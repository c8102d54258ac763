import Onboarding.Proofs.Text.Trim

/-!
# Octets that are text

Which octets are the writing of a text, and what becomes of that when they are cut.

* One character.  Reading that leaves no gap has gone through the octets of a character
  (`exists_encodeChar`), by the bounds that `scanFrom` keeps for each octet.
* Text.  `decode?_eq_some_iff`: a text is read from the octets with which it is written, and from no
  others.
* Cutting.  An ASCII octet is a character of its own wherever it stands (`scanFrom_append_ascii`),
  so that octets are text exactly when they are on both sides of it (`isText_append_cons`), and
  trimming of ASCII blanks makes no difference (`isText_trimOctets`).
-/

namespace Onboarding

namespace Utf8

/-- Octets that are the writing of a text. -/
def IsText (bytes : Bytes) : Prop :=
  ∃ text, bytes = encode text

theorem isText_nil : IsText [] :=
  ⟨[], rfl⟩

theorem IsText.append {bytes more : Bytes} (h : IsText bytes) (hmore : IsText more) :
    IsText (bytes ++ more) := by
  obtain ⟨text, rfl⟩ := h
  obtain ⟨behind, rfl⟩ := hmore
  exact ⟨text ++ behind, (encode_append text behind).symm⟩

/-! ## One character -/

/-- The value of a character that is given by its value. -/
theorem toNat_char {v : Nat} (h : v.isValidChar) : v = (Char.ofNat v).toNat := by
  rw [Char.ofNat, dif_pos h]
  rfl

/-- Without a gap, a character that has begun goes on with an octet within the bounds. -/
theorem exists_inside {owed value : Nat} {low high : UInt8} {bytes : Bytes}
    (hlow : 0x80 ≤ low.toNat) (hhigh : high.toNat ≤ 0xBF)
    (h : none ∉ scanFrom (.inside owed low high value) bytes) :
    ∃ n rest, n < 64 ∧ low.toNat ≤ n + 0x80 ∧ n + 0x80 ≤ high.toNat ∧
      bytes = UInt8.ofNat (n + 0x80) :: rest := by
  cases bytes with
  | nil => exact absurd (List.mem_singleton.mpr rfl) h
  | cons b rest =>
    by_cases hwithin : low ≤ b ∧ b ≤ high
    · rw [UInt8.le_iff_toNat_le, UInt8.le_iff_toNat_le] at hwithin
      refine ⟨b.toNat - 0x80, rest, by omega, by omega, by omega, ?_⟩
      rw [Nat.sub_add_cancel (by omega), UInt8.ofNat_toNat]
    · rw [scanFrom, State.feed, if_neg hwithin] at h
      simp at h

/-- The bounds of an octet that is not the second one. -/
theorem usual_bounds : 0x80 ≤ (0x80 : UInt8).toNat ∧ (0xBF : UInt8).toNat ≤ 0xBF := by
  decide

/-- What begins like a character of two octets is one. -/
theorem exists_encodeChar_of_two {n : Nat} {rest : Bytes} (hlow : 2 ≤ n) (hhigh : n < 32)
    (h : none ∉ scanFrom .between (UInt8.ofNat (n + 0xC0) :: rest)) :
    ∃ c more, UInt8.ofNat (n + 0xC0) :: rest = String.utf8EncodeChar c ++ more := by
  rw [scanFrom_first_of_two hlow hhigh] at h
  obtain ⟨a, more, ha, -, -, rfl⟩ := exists_inside usual_bounds.1 usual_bounds.2 h
  refine ⟨Char.ofNat (n * 64 + a), more, ?_⟩
  rw [encodeChar_eq (toNat_char (by omega)), if_neg (by omega), if_pos (by omega),
    show (n * 64 + a) / 64 % 32 = n by omega, show (n * 64 + a) % 64 = a by omega]
  rfl

/-- What begins like a character of three octets is one. -/
theorem exists_encodeChar_of_three {n : Nat} {rest : Bytes} (hn : n < 16)
    (h : none ∉ scanFrom .between (UInt8.ofNat (n + 0xE0) :: rest)) :
    ∃ c more, UInt8.ofNat (n + 0xE0) :: rest = String.utf8EncodeChar c ++ more := by
  rw [scanFrom_first_of_three hn] at h
  have hlow : 0x80 ≤ (if n = 0 then (0xA0 : UInt8) else 0x80).toNat := by split_ifs <;> decide
  have hhigh : (if n = 13 then (0x9F : UInt8) else 0xBF).toNat ≤ 0xBF := by split_ifs <;> decide
  obtain ⟨a, tail, ha, hlowa, hhigha, rfl⟩ := exists_inside hlow hhigh h
  rw [scanFrom_next n ha hlowa hhigha] at h
  obtain ⟨b, more, hb, -, -, rfl⟩ := exists_inside usual_bounds.1 usual_bounds.2 h
  -- The bounds of the second octet leave out short characters and surrogates.
  have hlong : n = 0 → 32 ≤ a := by
    rintro rfl
    have hbound : 0xA0 ≤ a + 0x80 := hlowa
    omega
  have hvalid : n = 13 → a < 32 := by
    rintro rfl
    have hbound : a + 0x80 ≤ 0x9F := hhigha
    omega
  refine ⟨Char.ofNat ((n * 64 + a) * 64 + b), more, ?_⟩
  rw [encodeChar_eq (toNat_char (by omega)), if_neg (by omega), if_neg (by omega),
    if_pos (by omega), show ((n * 64 + a) * 64 + b) / 4096 % 16 = n by omega,
    show ((n * 64 + a) * 64 + b) / 64 % 64 = a by omega,
    show ((n * 64 + a) * 64 + b) % 64 = b by omega]
  rfl

/-- What begins like a character of four octets is one. -/
theorem exists_encodeChar_of_four {n : Nat} {rest : Bytes} (hn : n < 5)
    (h : none ∉ scanFrom .between (UInt8.ofNat (n + 0xF0) :: rest)) :
    ∃ c more, UInt8.ofNat (n + 0xF0) :: rest = String.utf8EncodeChar c ++ more := by
  rw [scanFrom_first_of_four hn] at h
  have hlow : 0x80 ≤ (if n = 0 then (0x90 : UInt8) else 0x80).toNat := by split_ifs <;> decide
  have hhigh : (if n = 4 then (0x8F : UInt8) else 0xBF).toNat ≤ 0xBF := by split_ifs <;> decide
  obtain ⟨a, tail, ha, hlowa, hhigha, rfl⟩ := exists_inside hlow hhigh h
  rw [scanFrom_next n ha hlowa hhigha] at h
  obtain ⟨b, tail, hb, hlowb, hhighb, rfl⟩ := exists_inside usual_bounds.1 usual_bounds.2 h
  rw [scanFrom_next _ hb hlowb hhighb] at h
  obtain ⟨d, more, hd, -, -, rfl⟩ := exists_inside usual_bounds.1 usual_bounds.2 h
  -- The bounds of the second octet leave out short characters and what lies beyond the last one.
  have hlong : n = 0 → 16 ≤ a := by
    rintro rfl
    have hbound : 0x90 ≤ a + 0x80 := hlowa
    omega
  have hvalid : n = 4 → a < 16 := by
    rintro rfl
    have hbound : a + 0x80 ≤ 0x8F := hhigha
    omega
  refine ⟨Char.ofNat (((n * 64 + a) * 64 + b) * 64 + d), more, ?_⟩
  rw [encodeChar_eq (toNat_char (by omega)), if_neg (by omega), if_neg (by omega),
    if_neg (by omega), show (((n * 64 + a) * 64 + b) * 64 + d) / 262144 % 8 = n by omega,
    show (((n * 64 + a) * 64 + b) * 64 + d) / 4096 % 64 = a by omega,
    show (((n * 64 + a) * 64 + b) * 64 + d) / 64 % 64 = b by omega,
    show (((n * 64 + a) * 64 + b) * 64 + d) % 64 = d by omega]
  rfl

/-- Octets that no character begins with leave a gap. -/
theorem start_none {b : UInt8} (h : 0x80 ≤ b.toNat ∧ b.toNat < 0xC2 ∨ 0xF5 ≤ b.toNat) :
    State.start b = ([none], .between) := by
  obtain ⟨n, hn⟩ : ∃ n, n = b.toNat := ⟨_, rfl⟩
  have hb : b = UInt8.ofNat n := by rw [hn, UInt8.ofNat_toNat]
  have hlt := b.toNat_lt
  rw [← hn] at h hlt
  rw [hb]
  interval_cases n <;> first | rfl | omega

/-- Without a gap, octets begin with those of a character. -/
theorem exists_encodeChar {b : UInt8} {rest : Bytes} (h : none ∉ scan (b :: rest)) :
    ∃ c more, b :: rest = String.utf8EncodeChar c ++ more := by
  have hlt := b.toNat_lt
  have hoctet : ∀ base ≤ b.toNat, b = UInt8.ofNat (b.toNat - base + base) := by
    intro base hbase
    rw [Nat.sub_add_cancel hbase, UInt8.ofNat_toNat]
  rw [scan] at h
  by_cases hone : b.toNat < 0x80
  · refine ⟨Char.ofNat b.toNat, rest, ?_⟩
    rw [encodeChar_eq (toNat_char (by omega)), if_pos (by omega), UInt8.ofNat_toNat]
    rfl
  · by_cases hnone : b.toNat < 0xC2 ∨ 0xF5 ≤ b.toNat
    · rw [scanFrom, State.feed, start_none (by omega)] at h
      simp at h
    · by_cases htwo : b.toNat < 0xE0
      · rw [hoctet 0xC0 (by omega)] at h ⊢
        exact exists_encodeChar_of_two (by omega) (by omega) h
      · by_cases hthree : b.toNat < 0xF0
        · rw [hoctet 0xE0 (by omega)] at h ⊢
          exact exists_encodeChar_of_three (by omega) h
        · rw [hoctet 0xF0 (by omega)] at h ⊢
          exact exists_encodeChar_of_four (by omega) h

/-! ## Text -/

/-- Octets are text exactly when they are read without a gap. -/
theorem isText_iff {bytes : Bytes} : IsText bytes ↔ none ∉ scan bytes := by
  constructor
  · rintro ⟨text, rfl⟩
    rw [scan_encode]
    simp
  · intro h
    induction hlength : bytes.length using Nat.strong_induction_on generalizing bytes with
    | h length ih =>
      cases bytes with
      | nil => exact ⟨[], rfl⟩
      | cons b rest =>
        obtain ⟨c, more, hbytes⟩ := exists_encodeChar h
        have hshort : more.length < length := by
          have hpos := String.length_utf8EncodeChar c
          have hsize := c.utf8Size_pos
          rw [← hlength, hbytes, List.length_append]
          omega
        rw [hbytes, scan, scanFrom_encodeChar] at h
        obtain ⟨text, htext⟩ := ih more.length hshort (fun hgap => h (List.mem_cons_of_mem _ hgap)) rfl
        exact ⟨c :: text, by rw [hbytes, htext, encode_cons]⟩

theorem complete_eq_none_iff {α : Type} {as : List (Option α)} :
    complete as = none ↔ none ∈ as := by
  induction as with
  | nil => simp [complete]
  | cons a as ih => cases a <;> simp [complete, ih]

theorem decode?_eq_none_iff {bytes : Bytes} : decode? bytes = none ↔ ¬ IsText bytes := by
  rw [decode?, complete_eq_none_iff, isText_iff, Classical.not_not]

/-- A text is read from the octets with which it is written, and from no others. -/
theorem decode?_eq_some_iff {bytes : Bytes} {text : List Char} :
    decode? bytes = some text ↔ bytes = encode text := by
  constructor
  · intro h
    have htext : IsText bytes := by
      by_contra hnone
      rw [decode?_eq_none_iff.mpr hnone] at h
      cases h
    obtain ⟨written, rfl⟩ := htext
    rw [decode?_encode] at h
    rw [Option.some.inj h]
  · rintro rfl
    exact decode?_encode text

instance (bytes : Bytes) : Decidable (IsText bytes) :=
  decidable_of_iff (¬ decode? bytes = none) (by rw [decode?_eq_none_iff, Classical.not_not])

/-! ## Cutting -/

/-- A character that has begun does not go on with an ASCII octet. -/
def State.Awaits : State → Prop
  | .between => True
  | .inside _ low _ _ => 0x80 ≤ low.toNat

theorem awaits_start (b : UInt8) : (State.start b).2.Awaits := by
  rw [State.start]
  split_ifs <;> simp [State.Awaits]

theorem awaits_feed {state : State} (h : state.Awaits) (b : UInt8) : (state.feed b).2.Awaits := by
  cases state with
  | between => exact awaits_start b
  | inside owed low high value =>
    rw [State.feed]
    split_ifs
    · trivial
    · exact usual_bounds.1
    · exact awaits_start b

/-- An ASCII octet ends what has begun and is a character of its own. -/
theorem feed_ascii {state : State} (h : state.Awaits) {b : UInt8} (hb : b.toNat < 0x80) :
    state.feed b = (state.finish ++ [some (Char.ofNat b.toNat)], .between) := by
  have hstart : State.start b = ([some (Char.ofNat b.toNat)], .between) := by
    rw [State.start, if_pos (UInt8.lt_iff_toNat_lt.mpr hb)]
  cases state with
  | between => exact hstart
  | inside owed low high value =>
    have hout : ¬ (low ≤ b ∧ b ≤ high) := by
      rw [UInt8.le_iff_toNat_le]
      have hlow : 0x80 ≤ low.toNat := h
      omega
    rw [State.feed, if_neg hout, hstart]
    rfl

/-- An ASCII octet is a character of its own wherever it stands. -/
theorem scanFrom_append_ascii {state : State} (h : state.Awaits) {b : UInt8} (hb : b.toNat < 0x80)
    (front rest : Bytes) :
    scanFrom state (front ++ b :: rest)
      = scanFrom state front ++ some (Char.ofNat b.toNat) :: scan rest := by
  induction front generalizing state with
  | nil =>
    have hfeed := feed_ascii h hb
    show (state.feed b).1 ++ scanFrom (state.feed b).2 rest = _
    rw [hfeed, List.append_assoc]
    rfl
  | cons a front ih =>
    rw [List.cons_append, scanFrom, ih (awaits_feed h a), scanFrom, List.append_assoc]

/-- An ASCII octet ends what has begun, which is a gap unless nothing has. -/
theorem none_notMem_ascii {state : State} (h : state.Awaits) {b : UInt8} (hb : b.toNat < 0x80)
    (rest : Bytes) :
    none ∉ scanFrom state (b :: rest) ↔ none ∉ state.finish ∧ none ∉ scan rest := by
  have hscan := scanFrom_append_ascii h hb [] rest
  rw [List.nil_append] at hscan
  rw [hscan]
  simp [scanFrom]

/-- Octets are text exactly when they are on both sides of an ASCII octet. -/
theorem isText_append_cons {b : UInt8} (hb : b.toNat < 0x80) (front rest : Bytes) :
    IsText (front ++ b :: rest) ↔ IsText front ∧ IsText rest := by
  have hstart : State.between.Awaits := trivial
  have hscan : scan (front ++ b :: rest) = scan front ++ some (Char.ofNat b.toNat) :: scan rest :=
    scanFrom_append_ascii hstart hb front rest
  rw [isText_iff, isText_iff, isText_iff, hscan]
  simp

theorem isText_cons {b : UInt8} (hb : b.toNat < 0x80) (rest : Bytes) :
    IsText (b :: rest) ↔ IsText rest := by
  have hfront := isText_append_cons hb [] rest
  rw [List.nil_append] at hfront
  rw [hfront]
  exact and_iff_right isText_nil

theorem isText_concat {b : UInt8} (hb : b.toNat < 0x80) (front : Bytes) :
    IsText (front ++ [b]) ↔ IsText front := by
  rw [isText_append_cons hb]
  exact and_iff_left isText_nil

/-- ASCII octets around others make no difference to whether these are text. -/
theorem isText_padded {before after : Bytes} (hbefore : ∀ b ∈ before, b.toNat < 0x80)
    (hafter : ∀ b ∈ after, b.toNat < 0x80) (bytes : Bytes) :
    IsText (before ++ bytes ++ after) ↔ IsText bytes := by
  have hbehind : IsText (bytes ++ after) ↔ IsText bytes := by
    induction after generalizing bytes with
    | nil => rw [List.append_nil]
    | cons b after ih =>
      obtain ⟨hb, hrest⟩ := List.forall_mem_cons.mp hafter
      rw [List.append_cons, ih hrest, isText_concat hb]
  induction before with
  | nil => exact hbehind
  | cons b before ih =>
    obtain ⟨hb, hrest⟩ := List.forall_mem_cons.mp hbefore
    rw [List.cons_append, List.cons_append, isText_cons hb]
    exact ih hrest

/-- Trimming of ASCII blanks makes no difference to whether octets are text. -/
theorem isText_trimOctets (bytes : Bytes) : IsText (Text.trimOctets bytes) ↔ IsText bytes := by
  have hascii : ∀ b, Text.isBlankOctet b → b.toNat < 0x80 := by
    intro b hb
    simp only [Text.isBlankOctet, Bool.or_eq_true, beq_iff_eq] at hb
    rcases hb with (((rfl | rfl) | rfl) | rfl) | rfl <;> decide
  obtain ⟨before, after, hbytes, hbefore, hafter⟩ := Text.exists_trimBy Text.isBlankOctet bytes
  conv_rhs => rw [hbytes]
  exact (isText_padded (fun b hb => hascii b (hbefore b hb))
    (fun b hb => hascii b (hafter b hb)) _).symm

end Utf8

end Onboarding
