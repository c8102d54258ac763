import Mathlib.Tactic.IntervalCases
import Mathlib.Tactic.NormNum
import Onboarding.Text.Utf8

/-!
# Text through UTF-8

Reading gives back what was written.

* Writing.  An ASCII character is one octet, and all octets of another lie above ASCII, so that an
  ASCII octet in written text is the character itself.
* One character.  `scanFrom_first_of_two` and its neighbours say what the first octet leaves open,
  `scanFrom_next` and `scanFrom_last` what each further octet adds, and `scanFrom_encodeChar` puts
  a character together.
* Text.  `scan_encode_append` carries this along a text, and `decode?_encode` is what readers of
  fields and files use.
-/

namespace Onboarding

namespace Utf8

/-! ## Writing -/

@[simp] theorem encode_cons (c : Char) (text : List Char) :
    encode (c :: text) = String.utf8EncodeChar c ++ encode text := rfl

theorem encode_append (text more : List Char) :
    encode (text ++ more) = encode text ++ encode more :=
  List.flatMap_append

theorem toNat_octet {n : Nat} (h : n < 256) : (UInt8.ofNat n).toNat = n :=
  UInt8.toNat_ofNat_of_lt' h

/-- An ASCII character is one octet. -/
theorem encodeChar_ascii {c : Char} (h : c.toNat < 0x80) :
    String.utf8EncodeChar c = [UInt8.ofNat c.toNat] :=
  if_pos (Nat.le_of_lt_succ h)

/-- Every octet of another character lies above ASCII. -/
theorem le_of_mem_encodeChar {c : Char} (h : 0x80 ≤ c.toNat) {b : UInt8}
    (hb : b ∈ String.utf8EncodeChar c) : 0x80 ≤ b.toNat := by
  obtain ⟨n, hlow, hhigh, rfl⟩ : ∃ n, 0x80 ≤ n ∧ n < 256 ∧ b = UInt8.ofNat n := by
    have hlong : ¬ c.val.toNat ≤ 127 := Nat.not_le_of_lt h
    rw [String.utf8EncodeChar, if_neg hlong] at hb
    split_ifs at hb <;> simp only [List.mem_cons, List.not_mem_nil, or_false] at hb
    · rcases hb with rfl | rfl <;> exact ⟨_, by omega, by omega, rfl⟩
    · rcases hb with rfl | rfl | rfl <;> exact ⟨_, by omega, by omega, rfl⟩
    · rcases hb with rfl | rfl | rfl | rfl <;> exact ⟨_, by omega, by omega, rfl⟩
  rw [toNat_octet hhigh]
  exact hlow

/-- An octet of a character is the character itself, or lies above ASCII like the character. -/
theorem toNat_of_mem_encodeChar {c : Char} {b : UInt8} (hb : b ∈ String.utf8EncodeChar c) :
    b.toNat = c.toNat ∨ 0x80 ≤ b.toNat ∧ 0x80 ≤ c.toNat := by
  by_cases hascii : c.toNat < 0x80
  · rw [encodeChar_ascii hascii, List.mem_singleton] at hb
    exact .inl (hb ▸ toNat_octet (by omega))
  · have hc : 0x80 ≤ c.toNat := Nat.le_of_not_lt hascii
    exact .inr ⟨le_of_mem_encodeChar hc hb, hc⟩

/-- An octet of a character is an ASCII octet when the character is that one. -/
theorem octet_eq_iff {c : Char} {b : UInt8} (hb : b ∈ String.utf8EncodeChar c) (d : Char)
    (hd : d.toNat < 0x80) : b = UInt8.ofNat d.toNat ↔ c = d := by
  have hvalue := toNat_of_mem_encodeChar hb
  rw [← UInt8.toNat_inj, toNat_octet (by omega), ← Char.toNat_inj]
  omega

/-- Written text holds an ASCII octet where the text holds the character. -/
theorem octet_mem_encode_iff {d : Char} (hd : d.toNat < 0x80) (text : List Char) :
    UInt8.ofNat d.toNat ∈ encode text ↔ d ∈ text := by
  rw [encode, List.mem_flatMap]
  constructor
  · rintro ⟨c, hc, hb⟩
    exact (octet_eq_iff hb d hd).mp rfl ▸ hc
  · intro hmem
    refine ⟨d, hmem, ?_⟩
    rw [encodeChar_ascii hd]
    exact List.mem_singleton_self _

/-! ## One character -/

/-- The octet of a character of one octet. -/
theorem scanFrom_ascii {n : Nat} (h : n < 0x80) (rest : Bytes) :
    scanFrom .between (UInt8.ofNat n :: rest) = some (Char.ofNat n) :: scanFrom .between rest := by
  have hn : (UInt8.ofNat n).toNat = n := toNat_octet (by omega)
  have hlt : UInt8.ofNat n < 0x80 := by
    rw [UInt8.lt_iff_toNat_lt, hn]
    exact h
  have hstart : State.start (UInt8.ofNat n) = ([some (Char.ofNat n)], .between) := by
    rw [State.start, if_pos hlt, hn]
  rw [scanFrom, State.feed, hstart]
  rfl

/-- The first octet of a character of two octets. -/
theorem scanFrom_first_of_two {n : Nat} (hlow : 2 ≤ n) (hhigh : n < 32) (rest : Bytes) :
    scanFrom .between (UInt8.ofNat (n + 0xC0) :: rest)
      = scanFrom (.inside 1 0x80 0xBF n) rest := by
  have hstart : State.start (UInt8.ofNat (n + 0xC0)) = ([], .inside 1 0x80 0xBF n) := by
    interval_cases n <;> rfl
  rw [scanFrom, State.feed, hstart]
  rfl

/-- The first octet of a character of three octets.  The bounds of the second leave out shorter
characters and surrogates. -/
theorem scanFrom_first_of_three {n : Nat} (h : n < 16) (rest : Bytes) :
    scanFrom .between (UInt8.ofNat (n + 0xE0) :: rest)
      = scanFrom (.inside 2 (if n = 0 then 0xA0 else 0x80) (if n = 13 then 0x9F else 0xBF) n)
        rest := by
  have hstart : State.start (UInt8.ofNat (n + 0xE0)) =
      ([], .inside 2 (if n = 0 then 0xA0 else 0x80) (if n = 13 then 0x9F else 0xBF) n) := by
    interval_cases n <;> rfl
  rw [scanFrom, State.feed, hstart]
  rfl

/-- The first octet of a character of four octets.  The bounds of the second leave out shorter
characters and what lies beyond the last one. -/
theorem scanFrom_first_of_four {n : Nat} (h : n < 5) (rest : Bytes) :
    scanFrom .between (UInt8.ofNat (n + 0xF0) :: rest)
      = scanFrom (.inside 3 (if n = 0 then 0x90 else 0x80) (if n = 4 then 0x8F else 0xBF) n)
        rest := by
  have hstart : State.start (UInt8.ofNat (n + 0xF0)) =
      ([], .inside 3 (if n = 0 then 0x90 else 0x80) (if n = 4 then 0x8F else 0xBF) n) := by
    interval_cases n <;> rfl
  rw [scanFrom, State.feed, hstart]
  rfl

/-- An octet within its bounds adds six bits. -/
theorem feed_inside {n : Nat} (owed : Nat) {low high : UInt8} (value : Nat) (h : n < 64)
    (hlow : low.toNat ≤ n + 0x80) (hhigh : n + 0x80 ≤ high.toNat) :
    State.feed (UInt8.ofNat (n + 0x80)) (.inside owed low high value)
      = if owed ≤ 1 then ([some (Char.ofNat (value * 64 + n))], .between)
        else ([], .inside (owed - 1) 0x80 0xBF (value * 64 + n)) := by
  have hn : (UInt8.ofNat (n + 0x80)).toNat = n + 0x80 := toNat_octet (by omega)
  have hwithin : low ≤ UInt8.ofNat (n + 0x80) ∧ UInt8.ofNat (n + 0x80) ≤ high := by
    rw [UInt8.le_iff_toNat_le, UInt8.le_iff_toNat_le, hn]
    exact ⟨hlow, hhigh⟩
  rw [State.feed, if_pos hwithin, hn, Nat.add_sub_cancel]

/-- The bounds of an octet that is not the second one admit every six bits. -/
theorem within_usual {n : Nat} (h : n < 64) :
    (0x80 : UInt8).toNat ≤ n + 0x80 ∧ n + 0x80 ≤ (0xBF : UInt8).toNat := by
  have hlow : (0x80 : UInt8).toNat = 0x80 := rfl
  have hhigh : (0xBF : UInt8).toNat = 0xBF := rfl
  omega

/-- The last octet of a character. -/
theorem scanFrom_last {n : Nat} (value : Nat) (h : n < 64) (rest : Bytes) :
    scanFrom (.inside 1 0x80 0xBF value) (UInt8.ofNat (n + 0x80) :: rest)
      = some (Char.ofNat (value * 64 + n)) :: scanFrom .between rest := by
  obtain ⟨hlow, hhigh⟩ := within_usual h
  rw [scanFrom, feed_inside 1 value h hlow hhigh, if_pos (Nat.le_refl 1)]
  rfl

/-- An octet of a character that is not the last one; the next has no bounds of its own. -/
theorem scanFrom_next {n owed : Nat} {low high : UInt8} (value : Nat) (h : n < 64)
    (hlow : low.toNat ≤ n + 0x80) (hhigh : n + 0x80 ≤ high.toNat) (rest : Bytes) :
    scanFrom (.inside (owed + 2) low high value) (UInt8.ofNat (n + 0x80) :: rest)
      = scanFrom (.inside (owed + 1) 0x80 0xBF (value * 64 + n)) rest := by
  rw [scanFrom, feed_inside (owed + 2) value h hlow hhigh, if_neg (by omega)]
  rfl

/-- The octets of a character, by its value. -/
theorem encodeChar_eq {c : Char} {v : Nat} (h : v = c.toNat) :
    String.utf8EncodeChar c =
      if v ≤ 0x7F then [UInt8.ofNat v]
      else if v ≤ 0x7FF then [UInt8.ofNat (v / 64 % 32 + 0xC0), UInt8.ofNat (v % 64 + 0x80)]
      else if v ≤ 0xFFFF then
        [UInt8.ofNat (v / 4096 % 16 + 0xE0), UInt8.ofNat (v / 64 % 64 + 0x80),
          UInt8.ofNat (v % 64 + 0x80)]
      else
        [UInt8.ofNat (v / 262144 % 8 + 0xF0), UInt8.ofNat (v / 4096 % 64 + 0x80),
          UInt8.ofNat (v / 64 % 64 + 0x80), UInt8.ofNat (v % 64 + 0x80)] := by
  rw [h]
  rfl

/-- A character is read back from its octets. -/
theorem scanFrom_encodeChar (c : Char) (rest : Bytes) :
    scanFrom .between (String.utf8EncodeChar c ++ rest) = some c :: scanFrom .between rest := by
  obtain ⟨v, hv⟩ : ∃ v, v = c.toNat := ⟨_, rfl⟩
  have hvalid : v < 0xD800 ∨ 0xDFFF < v ∧ v < 0x110000 := hv ▸ c.valid
  have hencode := encodeChar_eq hv
  have hchar : ∀ {n : Nat}, n = v → Char.ofNat n = c := by
    rintro n rfl
    rw [hv]
    exact Char.ofNat_toNat c
  -- In every length the bits of the octets add up to the character.
  rw [hencode]
  split_ifs with hone htwo hthree
  · rw [List.cons_append, scanFrom_ascii (by omega), hchar rfl, List.nil_append]
  · rw [List.cons_append, List.cons_append, scanFrom_first_of_two (by omega) (by omega),
      scanFrom_last _ (by omega),
      hchar (by omega), List.nil_append]
  · have hlow : (if v / 4096 % 16 = 0 then (0xA0 : UInt8) else 0x80).toNat
        ≤ v / 64 % 64 + 0x80 := by
      split_ifs
      · rw [show (0xA0 : UInt8).toNat = 0xA0 from rfl]
        omega
      · exact Nat.le_add_left _ _
    have hhigh : v / 64 % 64 + 0x80
        ≤ (if v / 4096 % 16 = 13 then (0x9F : UInt8) else 0xBF).toNat := by
      split_ifs
      · rw [show (0x9F : UInt8).toNat = 0x9F from rfl]
        omega
      · exact (within_usual (Nat.mod_lt _ (by omega))).2
    rw [List.cons_append, List.cons_append, List.cons_append, scanFrom_first_of_three (by omega),
      scanFrom_next _ (by omega) hlow hhigh,
      scanFrom_last _ (by omega),
      hchar (by omega), List.nil_append]
  · have hthird : v / 64 % 64 < 64 := Nat.mod_lt _ (by omega)
    have hlow : (if v / 262144 % 8 = 0 then (0x90 : UInt8) else 0x80).toNat
        ≤ v / 4096 % 64 + 0x80 := by
      split_ifs
      · rw [show (0x90 : UInt8).toNat = 0x90 from rfl]
        omega
      · exact Nat.le_add_left _ _
    have hhigh : v / 4096 % 64 + 0x80
        ≤ (if v / 262144 % 8 = 4 then (0x8F : UInt8) else 0xBF).toNat := by
      split_ifs
      · rw [show (0x8F : UInt8).toNat = 0x8F from rfl]
        omega
      · exact (within_usual (Nat.mod_lt _ (by omega))).2
    rw [List.cons_append, List.cons_append, List.cons_append, List.cons_append,
      scanFrom_first_of_four (by omega), scanFrom_next _ (by omega) hlow hhigh,
      scanFrom_next _ (by omega) (within_usual hthird).1 (within_usual hthird).2,
      scanFrom_last _ (by omega),
      hchar (by omega), List.nil_append]

/-! ## Text -/

/-- Text is read back without a gap, whatever octets stand behind it. -/
theorem scan_encode_append (text : List Char) (rest : Bytes) :
    scan (encode text ++ rest) = text.map some ++ scan rest := by
  induction text with
  | nil => rfl
  | cons c text ih =>
    rw [scan] at ih ⊢
    rw [encode_cons, List.append_assoc, scanFrom_encodeChar, ih, List.map_cons, List.cons_append]

theorem scan_encode (text : List Char) : scan (encode text) = text.map some := by
  have hscan := scan_encode_append text []
  rw [List.append_nil] at hscan
  rw [hscan]
  exact List.append_nil _

theorem complete_map_some {α : Type} (as : List α) : complete (as.map some) = some as := by
  induction as with
  | nil => rfl
  | cons a as ih => rw [List.map_cons, complete, ih, Option.map_some]

/-- What was written as UTF-8 is read back. -/
theorem decode?_encode (text : List Char) : decode? (encode text) = some text := by
  rw [decode?, scan_encode, complete_map_some]

/-- Nothing has to be put in the place of what was written as UTF-8. -/
theorem decodeLossy_encode (text : List Char) : decodeLossy (encode text) = text := by
  rw [decodeLossy, scan_encode, List.map_map]
  exact List.map_id text

theorem toStringLossy_ofString (s : String) : toStringLossy (ofString s) = s := by
  rw [toStringLossy, ofString, decodeLossy_encode, String.ofList_toList]

/-- No two texts are written alike. -/
theorem encode_injective : Function.Injective encode := by
  intro text text' h
  have hread : some text = some text' := by
    rw [← decode?_encode, h, decode?_encode]
  exact Option.some.inj hread

end Utf8

end Onboarding
