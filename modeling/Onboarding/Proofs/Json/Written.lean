import Mathlib.Tactic.SplitIfs
import Onboarding.Json.Reader
import Onboarding.Json.Writer
import Onboarding.Proofs.Text.Utf8

/-!
# Values that were written

What the writer makes of a value is read back as that value, whatever characters its texts hold.

* Strings.  `charPieces` is what is read of one character, escaped or not, and `readString_text`
  carries this along a text to its closing quote.
* Values.  `Textual` values have no numbers and texts for all strings.  `Textual.readsBack` reads
  them, by induction on the value, with whatever is behind them left; the fuel that a value takes is
  bounded by the octets that were written of it.
* `parse?_encode` is the round trip.
-/

namespace Onboarding

namespace Json

/-! ## Strings -/

/-- A character that is written by its code. -/
def isCoded (c : Char) : Bool :=
  c.toNat < 0x20 && !(c.toNat == 0x8 || c == '\t' || c == '\n' || c.toNat == 0xC || c == '\r')

/-- What is read of a character: its code unit when it is written by its code, and else its octets.
-/
def charPieces (c : Char) : List Piece :=
  if isCoded c then [.unit c.toNat] else (String.utf8EncodeChar c).map .octet

variable {rest : Bytes}

/-- Pieces in front of what a reader gives. -/
def behind (pieces : List Piece) (r : Option (List Piece × Bytes)) : Option (List Piece × Bytes) :=
  r.map fun r => (pieces ++ r.1, r.2)

theorem behind_append (pieces more : List Piece) (r : Option (List Piece × Bytes)) :
    behind (pieces ++ more) r = behind pieces (behind more r) := by
  simp [behind, Option.map_map, Function.comp_def]

/-- Octets that stand for themselves. -/
theorem readPieces_plain {octets : Bytes} (h : ∀ b ∈ octets, b ≠ 0x22 ∧ b ≠ 0x5C ∧ ¬ b < 0x20)
    (rest : Bytes) :
    readPieces .plain (octets ++ rest) = behind (octets.map .octet) (readPieces .plain rest) := by
  induction octets with
  | nil => simp [behind]
  | cons b octets ih =>
    obtain ⟨⟨hquote, hslash, hcontrol⟩, hoctets⟩ := List.forall_mem_cons.mp h
    rw [List.cons_append, readPieces, if_neg hquote, if_neg hslash, if_neg hcontrol, ih hoctets,
      List.map_cons, ← List.singleton_append, behind_append]
    rfl

/-- A digit of an escape is one octet, and reads as its value. -/
theorem digitValue?_digit : ∀ d < 16,
    String.utf8EncodeChar (Numeral.digit d) = [UInt8.ofNat (Numeral.digit d).toNat] ∧
      Numeral.digitValue? 16 (Char.ofNat (UInt8.ofNat (Numeral.digit d).toNat).toNat) = some d := by
  decide +kernel

theorem readPieces_digit {d : Nat} (h : d < 16) (left value : Nat) (rest : Bytes) :
    readPieces (.digits (left + 1) value) (String.utf8EncodeChar (Numeral.digit d) ++ rest)
      = readPieces (.digits left (value * 16 + d)) rest := by
  obtain ⟨hoctet, hvalue⟩ := digitValue?_digit d h
  rw [hoctet, List.singleton_append, readPieces, hvalue]

theorem readPieces_lastDigit {d : Nat} (h : d < 16) (value : Nat) (rest : Bytes) :
    readPieces (.digits 0 value) (String.utf8EncodeChar (Numeral.digit d) ++ rest)
      = behind [.unit (value * 16 + d)] (readPieces .plain rest) := by
  obtain ⟨hoctet, hvalue⟩ := digitValue?_digit d h
  rw [hoctet, List.singleton_append, readPieces, hvalue]
  rfl

/-- A code of four digits reads as a code unit. -/
theorem readPieces_coded {n : Nat} (h : n < 0x10000) (rest : Bytes) :
    readPieces .plain (Utf8.encode ('\\' :: 'u' :: Numeral.hex4 n) ++ rest)
      = behind [.unit n] (readPieces .plain rest) := by
  have hdigit : ∀ m, m % 16 < 16 := fun m => Nat.mod_lt m (by decide)
  have hvalue : (((0 * 16 + n / 4096 % 16) * 16 + n / 256 % 16) * 16 + n / 16 % 16) * 16 + n % 16
      = n := by
    omega
  have hopening : ∀ digits : Bytes, readPieces .plain
      (String.utf8EncodeChar '\\' ++ (String.utf8EncodeChar 'u' ++ digits))
        = readPieces (.digits 3 0) digits := fun _ => rfl
  simp only [Numeral.hex4, Utf8.encode_cons, List.append_assoc]
  rw [hopening, readPieces_digit (hdigit _), readPieces_digit (hdigit _), readPieces_digit (hdigit _),
    readPieces_lastDigit (hdigit _), hvalue]
  rfl

/-- A character that stands for itself. -/
theorem readPieces_char {c : Char} (hquote : c ≠ '"') (hslash : c ≠ '\\') (hcontrol : ¬ c.toNat < 0x20)
    (rest : Bytes) :
    readPieces .plain (Utf8.encode [c] ++ rest) = behind (charPieces c) (readPieces .plain rest) := by
  have hplain : isCoded c = false := by simp [isCoded, hcontrol]
  have hoctets : ∀ b ∈ String.utf8EncodeChar c, b ≠ 0x22 ∧ b ≠ 0x5C ∧ ¬ b < 0x20 := by
    intro b hb
    have hb22 : b = 0x22 ↔ c = '"' := Utf8.octet_eq_iff hb '"' (by decide)
    have hb5C : b = 0x5C ↔ c = '\\' := Utf8.octet_eq_iff hb '\\' (by decide)
    have hvalue := Utf8.toNat_of_mem_encodeChar hb
    refine ⟨fun h => hquote (hb22.mp h), fun h => hslash (hb5C.mp h), ?_⟩
    rw [UInt8.lt_iff_toNat_lt]
    show ¬ b.toNat < 0x20
    omega
  have hwritten : Utf8.encode [c] = String.utf8EncodeChar c := List.append_nil _
  rw [charPieces, hplain, hwritten, readPieces_plain hoctets]
  rfl

/-- A character is read as its pieces. -/
theorem readPieces_writeChar (c : Char) (rest : Bytes) :
    readPieces .plain (Utf8.encode (writeChar c) ++ rest)
      = behind (charPieces c) (readPieces .plain rest) := by
  have hchar : ∀ {d : Char}, c.toNat = d.toNat → c = d := fun h => Char.toNat_inj.mp h
  rw [writeChar]
  split_ifs with hquote hslash hback htab hfeed hform hreturn hcontrol
  · rw [hquote]
    rfl
  · rw [hslash]
    rfl
  · rw [hchar (d := '\x08') hback]
    rfl
  · rw [htab]
    rfl
  · rw [hfeed]
    rfl
  · rw [hchar (d := '\x0c') hform]
    rfl
  · rw [hreturn]
    rfl
  · have hcoded : isCoded c = true := by
      simp [isCoded, hcontrol, hback, htab, hfeed, hform, hreturn]
    rw [charPieces, hcoded, readPieces_coded (by omega)]
    rfl
  · exact readPieces_char hquote hslash hcontrol rest

/-- A text is read as its pieces up to the closing quote. -/
theorem readPieces_text (text : List Char) (rest : Bytes) :
    readPieces .plain (Utf8.encode (text.flatMap writeChar) ++ 0x22 :: rest)
      = some (text.flatMap charPieces, rest) := by
  induction text with
  | nil => rfl
  | cons c text ih =>
    rw [List.flatMap_cons, Utf8.encode_append, List.append_assoc, readPieces_writeChar, ih]
    rfl

/-- A code unit of its own is a character. -/
theorem joinPieces_unit {n : Nat} (h : n < 0xD800) (pieces : List Piece) :
    joinPieces (.unit n :: pieces)
      = (joinPieces pieces).map (String.utf8EncodeChar (Char.ofNat n) ++ ·) := by
  have hhigh : isHighHalf n = false := by simp [isHighHalf, h]
  have hlow : isLowHalf n = false := by
    simp [isLowHalf]
    omega
  match pieces with
  | [] => simp [joinPieces, hhigh, hlow]
  | .octet _ :: _ => simp [joinPieces, hhigh, hlow]
  | .unit _ :: _ => simp [joinPieces, hhigh, hlow]

theorem joinPieces_octets (octets : Bytes) (pieces : List Piece) :
    joinPieces (octets.map .octet ++ pieces) = (joinPieces pieces).map (octets ++ ·) := by
  induction octets with
  | nil => simp
  | cons b octets ih =>
    rw [List.map_cons, List.cons_append, joinPieces, ih, Option.map_map]
    rfl

/-- The pieces of a text stand for its octets. -/
theorem joinPieces_text (text : List Char) :
    joinPieces (text.flatMap charPieces) = some (Utf8.encode text) := by
  induction text with
  | nil => rfl
  | cons c text ih =>
    rw [List.flatMap_cons, charPieces]
    split_ifs with hcoded
    · have hcontrol : c.toNat < 0x20 := by
        simp only [isCoded, Bool.and_eq_true, decide_eq_true_eq] at hcoded
        exact hcoded.1
      rw [List.singleton_append, joinPieces_unit (by omega), ih, Char.ofNat_toNat]
      rfl
    · rw [joinPieces_octets, ih]
      rfl

/-- A string is read back, behind its opening quote. -/
theorem readString_text (s : String) (rest : Bytes) :
    readString (Utf8.encode (s.toList.flatMap writeChar) ++ 0x22 :: rest) = some (some s, rest) := by
  rw [readString, readPieces_text, Option.map_some, joinPieces_text, Option.bind_some, Utf8.toString?,
    Utf8.decode?_encode, Option.map_some, String.ofList_toList]

/-! ## Values -/

/-- A value without numbers, all strings of which are texts. -/
inductive Textual : Json → Prop where
  | null : Textual .null
  | bool (value : Bool) : Textual (.bool value)
  | text (s : String) : Textual (Json.text s)
  | array {items : List Json} (values : ∀ item ∈ items, Textual item) : Textual (.array items)
  | object {members : List (Option String × Json)} (named : ∀ m ∈ members, m.1.isSome)
      (values : ∀ m ∈ members, Textual m.2) : Textual (.object members)

/-- An octet that is no blank stands where it is. -/
theorem skipGap_cons {b : UInt8} (h : isGap b = false) (rest : Bytes) :
    skipGap (b :: rest) = b :: rest := by
  rw [skipGap, List.dropWhile_cons_of_neg (by simp [h])]

theorem encode_text (s : String) :
    (Json.text s).encode = 0x22 :: (Utf8.encode (s.toList.flatMap writeChar) ++ [0x22]) := by
  rw [encode, Json.text, write, writeString, writeText, List.cons_append, Utf8.encode_cons,
    Utf8.encode_append]
  rfl

theorem encode_array (items : List Json) :
    (Json.array items).encode = 0x5B :: (Utf8.encode (writeItems items) ++ [0x5D]) := by
  rw [encode, write, List.cons_append, Utf8.encode_cons, Utf8.encode_append]
  rfl

theorem encode_object (members : List (Option String × Json)) :
    (Json.object members).encode = 0x7B :: (Utf8.encode (writeMembers members) ++ [0x7D]) := by
  rw [encode, write, List.cons_append, Utf8.encode_cons, Utf8.encode_append]
  rfl

theorem encode_items (item next : Json) (more : List Json) :
    Utf8.encode (writeItems (item :: next :: more))
      = item.encode ++ 0x2C :: Utf8.encode (writeItems (next :: more)) := by
  rw [writeItems, Utf8.encode_append, Utf8.encode_cons]
  · rfl
  · simp

theorem encode_member (name : String) (value : Json) :
    Utf8.encode (writeMembers [(some name, value)])
      = (Json.text name).encode ++ 0x3A :: value.encode := by
  rw [writeMembers, Utf8.encode_append, Utf8.encode_cons]
  rfl

theorem encode_members (name : String) (value : Json) (next : Option String × Json)
    (more : List (Option String × Json)) :
    Utf8.encode (writeMembers ((some name, value) :: next :: more))
      = (Json.text name).encode ++ 0x3A :: (value.encode ++
          0x2C :: Utf8.encode (writeMembers (next :: more))) := by
  rw [writeMembers, List.append_assoc, Utf8.encode_append, List.cons_append, Utf8.encode_cons,
    Utf8.encode_append, Utf8.encode_cons]
  · rfl
  · simp

/-- No value begins with a blank or ends an array. -/
theorem Textual.head {v : Json} (h : Textual v) :
    ∃ b rest, v.encode = b :: rest ∧ isGap b = false ∧ b ≠ 0x5D := by
  cases h with
  | null => exact ⟨_, _, rfl, by decide, by decide⟩
  | bool value => cases value <;> exact ⟨_, _, rfl, by decide, by decide⟩
  | text s => exact ⟨_, _, encode_text s, by decide, by decide⟩
  | array => exact ⟨_, _, encode_array _, by decide, by decide⟩
  | object => exact ⟨_, _, encode_object _, by decide, by decide⟩

/-- What is written of a value is read back, and what is behind it is left. -/
def ReadsBack (v : Json) : Prop :=
  ∀ fuel rest, 2 * v.encode.length ≤ fuel → readValue fuel (v.encode ++ rest) = some (v, rest)

/-- A call of the reader is all that it takes to begin. -/
theorem ReadsBack.of_succ {v : Json} {b : UInt8} {octets : Bytes} (hwritten : v.encode = b :: octets)
    (h : ∀ fuel rest, 2 * octets.length < fuel →
      readValue (fuel + 1) (b :: (octets ++ rest)) = some (v, rest)) : ReadsBack v := by
  intro fuel rest hfuel
  rw [hwritten, List.length_cons] at hfuel
  obtain ⟨fuel, rfl⟩ : ∃ n, fuel = n + 1 := Nat.exists_eq_add_one.mpr (by omega)
  rw [hwritten, List.cons_append, h fuel rest (by omega)]

/-- Items that are read back one by one are read back as a list. -/
theorem readItems_encode {item : Json} {more : List Json} (h : ∀ v ∈ item :: more, ReadsBack v) :
    ∀ fuel rest, 2 * (Utf8.encode (writeItems (item :: more))).length + 1 ≤ fuel →
      readItems fuel (Utf8.encode (writeItems (item :: more)) ++ 0x5D :: rest)
        = some (item :: more, rest) := by
  induction more generalizing item with
  | nil =>
    intro fuel rest hfuel
    obtain ⟨fuel, rfl⟩ : ∃ n, fuel = n + 1 := Nat.exists_eq_add_one.mpr (by omega)
    have hlength : (Utf8.encode (writeItems [item])).length = item.encode.length := rfl
    have hitem := h item List.mem_cons_self fuel (0x5D :: rest) (by omega)
    have hwritten : Utf8.encode (writeItems [item]) = item.encode := rfl
    rw [hwritten, readItems, hitem]
    rfl
  | cons next more ih =>
    intro fuel rest hfuel
    obtain ⟨fuel, rfl⟩ : ∃ n, fuel = n + 1 := Nat.exists_eq_add_one.mpr (by omega)
    rw [encode_items, List.length_append, List.length_cons] at hfuel
    have hitem := h item List.mem_cons_self fuel
      (0x2C :: (Utf8.encode (writeItems (next :: more)) ++ 0x5D :: rest)) (by omega)
    have hmore := ih (List.forall_mem_cons.mp h).2 fuel rest (by omega)
    rw [encode_items, List.append_assoc, List.cons_append, readItems, hitem]
    dsimp only
    rw [skipGap_cons (by decide)]
    show (readItems fuel _).map (fun r => (item :: r.1, r.2)) = _
    rw [hmore]
    rfl

/-- The name of a member is read up to its value. -/
theorem readMembers_name (fuel : Nat) (name : String) (rest : Bytes) :
    readMembers (fuel + 1) ((Json.text name).encode ++ 0x3A :: rest)
      = match readValue fuel rest with
        | none => none
        | some (value, rest) =>
          match skipGap rest with
          | 0x2C :: rest => (readMembers fuel rest).map (fun r => ((some name, value) :: r.1, r.2))
          | 0x7D :: rest => some ([(some name, value)], rest)
          | _ => none := by
  have hname := readString_text name (0x3A :: rest)
  rw [encode_text, List.cons_append, List.append_assoc, List.singleton_append, readMembers,
    skipGap_cons (by decide)]
  simp only [hname]
  rw [skipGap_cons (by decide)]
  rfl

/-- Members with names that are texts and values that are read back are read back as a list. -/
theorem readMembers_encode {m : Option String × Json} {more : List (Option String × Json)}
    (hnamed : ∀ member ∈ m :: more, member.1.isSome)
    (h : ∀ member ∈ m :: more, ReadsBack member.2) :
    ∀ fuel rest, 2 * (Utf8.encode (writeMembers (m :: more))).length + 1 ≤ fuel →
      readMembers fuel (Utf8.encode (writeMembers (m :: more)) ++ 0x7D :: rest)
        = some (m :: more, rest) := by
  induction more generalizing m with
  | nil =>
    intro fuel rest hfuel
    obtain ⟨fuel, rfl⟩ : ∃ n, fuel = n + 1 := Nat.exists_eq_add_one.mpr (by omega)
    obtain ⟨key, value⟩ := m
    have hkey : key.isSome := hnamed (key, value) List.mem_cons_self
    obtain ⟨name, rfl⟩ := Option.isSome_iff_exists.mp hkey
    have hread : ReadsBack value := h (some name, value) List.mem_cons_self
    rw [encode_member, List.length_append, List.length_cons] at hfuel
    have hvalue := hread fuel (0x7D :: rest) (by omega)
    rw [encode_member, List.append_assoc, List.cons_append, readMembers_name, hvalue]
    rfl
  | cons next more ih =>
    intro fuel rest hfuel
    obtain ⟨fuel, rfl⟩ : ∃ n, fuel = n + 1 := Nat.exists_eq_add_one.mpr (by omega)
    obtain ⟨key, value⟩ := m
    have hkey : key.isSome := hnamed (key, value) List.mem_cons_self
    obtain ⟨name, rfl⟩ := Option.isSome_iff_exists.mp hkey
    have hread : ReadsBack value := h (some name, value) List.mem_cons_self
    rw [encode_members, List.length_append, List.length_cons, List.length_append,
      List.length_cons] at hfuel
    have hvalue := hread fuel
      (0x2C :: (Utf8.encode (writeMembers (next :: more)) ++ 0x7D :: rest)) (by omega)
    have hmore := ih (List.forall_mem_cons.mp hnamed).2 (List.forall_mem_cons.mp h).2 fuel rest
      (by omega)
    rw [encode_members, List.append_assoc, List.cons_append, List.append_assoc, List.cons_append,
      readMembers_name, hvalue]
    dsimp only
    rw [skipGap_cons (by decide)]
    show (readMembers fuel _).map (fun r => ((some name, value) :: r.1, r.2)) = _
    rw [hmore]
    rfl

/-- No list of items begins with a blank or ends an array. -/
theorem head_items {item : Json} (h : Textual item) (more : List Json) :
    ∃ b rest, Utf8.encode (writeItems (item :: more)) = b :: rest ∧ isGap b = false ∧ b ≠ 0x5D := by
  obtain ⟨b, rest, hitem, hb⟩ := h.head
  cases more with
  | nil => exact ⟨b, rest, hitem, hb⟩
  | cons next more => exact ⟨b, _, by rw [encode_items, hitem, List.cons_append], hb⟩

/-- The members of an object begin with the quote of a name. -/
theorem head_members {m : Option String × Json} (h : m.1.isSome)
    (more : List (Option String × Json)) :
    ∃ rest, Utf8.encode (writeMembers (m :: more)) = 0x22 :: rest := by
  obtain ⟨key, value⟩ := m
  obtain ⟨name, rfl⟩ := Option.isSome_iff_exists.mp h
  cases more with
  | nil => exact ⟨_, by rw [encode_member, encode_text, List.cons_append]⟩
  | cons next more => exact ⟨_, by rw [encode_members, encode_text, List.cons_append]⟩

/-- An array of items that are read back is read back. -/
theorem ReadsBack.array {items : List Json} (htextual : ∀ v ∈ items, Textual v)
    (h : ∀ v ∈ items, ReadsBack v) : ReadsBack (.array items) := by
  refine .of_succ (encode_array items) fun fuel rest hfuel => ?_
  rw [List.length_append, List.length_singleton] at hfuel
  rw [List.append_assoc, List.singleton_append, readValue, skipGap_cons (by decide)]
  cases items with
  | nil => rfl
  | cons item more =>
    obtain ⟨b, octets, hoctets, hgap, hb⟩ := head_items (htextual item List.mem_cons_self) more
    have hread := readItems_encode h fuel rest (by omega)
    rw [hoctets] at hread ⊢
    dsimp only
    rw [if_neg (by decide), if_pos rfl, List.cons_append, skipGap_cons hgap]
    split
    · next heq => exact absurd (List.cons.inj heq).1 hb
    · rw [← List.cons_append, hread]
      rfl

/-- An object of values that are read back is read back. -/
theorem ReadsBack.object {members : List (Option String × Json)} (hnamed : ∀ m ∈ members, m.1.isSome)
    (h : ∀ m ∈ members, ReadsBack m.2) : ReadsBack (.object members) := by
  refine .of_succ (encode_object members) fun fuel rest hfuel => ?_
  rw [List.length_append, List.length_singleton] at hfuel
  rw [List.append_assoc, List.singleton_append, readValue, skipGap_cons (by decide)]
  cases members with
  | nil => rfl
  | cons m more =>
    obtain ⟨octets, hoctets⟩ := head_members (hnamed m List.mem_cons_self) more
    have hread := readMembers_encode hnamed h fuel rest (by omega)
    rw [hoctets] at hread ⊢
    dsimp only
    rw [if_neg (by decide), if_neg (by decide), if_pos rfl, List.cons_append,
      skipGap_cons (by decide)]
    show (readMembers fuel _).map (fun r => (Json.object r.1, r.2)) = _
    rw [← List.cons_append, hread]
    rfl

/-- A value without numbers, all strings of which are texts, is read back. -/
theorem Textual.readsBack {v : Json} (h : Textual v) : ReadsBack v := by
  induction h with
  | null => exact .of_succ rfl fun _ _ _ => rfl
  | bool value => cases value <;> exact .of_succ rfl fun _ _ _ => rfl
  | text s =>
    refine .of_succ (encode_text s) fun fuel rest _ => ?_
    rw [List.append_assoc, List.singleton_append, readValue, skipGap_cons (by decide)]
    dsimp only
    rw [if_pos rfl, readString_text]
    rfl
  | array values ih => exact .array values ih
  | object named values ih => exact .object named ih

/-- A value without numbers, all strings of which are texts, is parsed back. -/
theorem parse?_encode {v : Json} (h : Textual v) : parse? v.encode = some v := by
  have hread := h.readsBack (2 * v.encode.length + 2) [] (by omega)
  rw [List.append_nil] at hread
  rw [parse?, hread]
  rfl

/-- Octets as the writer makes them of a value are parsed to that value. -/
theorem parse?_of_written {v : Json} {octets : Bytes} (h : octets = v.encode) (htext : Textual v) :
    parse? octets = some v := by
  rw [h]
  exact parse?_encode htext

end Json

end Onboarding
