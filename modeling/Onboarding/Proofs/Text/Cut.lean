import Mathlib.Data.List.Infix
import Onboarding.Proofs.Text.Utf8

/-!
# Text that is cut between octets

What is read from the first octets of a text.  A cut between two characters leaves the text before
it, and a cut inside a character leaves one gap behind that, however many octets of the character
are there.

* Reading in parts.  `exists_scanFrom_append` reads octets up to a place and goes on from there,
  where something was read or a character has begun.
* Lengths.  Reading gives at most one character for each octet (`length_decodeLossy_le`).
* Cuts.  `scan_part` reads a part of a character, `exists_fitting` finds the place of a cut in the
  text, and `decodeLossy_take_encode` says what is read from the octets before the cut.
-/

namespace Onboarding

namespace Utf8

/-! ## Reading in parts -/

/-- A character has begun. -/
def State.Begun : State → Prop
  | .between => False
  | .inside .. => True

/-- After an octet something was read, or a character has begun. -/
theorem feed_reads (b : UInt8) (state : State) :
    (state.feed b).1 ≠ [] ∨ (state.feed b).2.Begun := by
  have hstart : (State.start b).1 ≠ [] ∨ (State.start b).2.Begun := by
    rw [State.start]
    split_ifs <;> simp [State.Begun]
  cases state with
  | between => exact hstart
  | inside owed low high value =>
    rw [State.feed]
    split_ifs
    · exact .inl (by simp)
    · exact .inr trivial
    · exact .inl (by simp)

/-- Octets are read up to a place and then from there.  If there were octets, something was read on
the way or a character has begun. -/
theorem exists_scanFrom_append (front : Bytes) (state : State) :
    ∃ pieces next, (∀ rest, scanFrom state (front ++ rest) = pieces ++ scanFrom next rest) ∧
      (front ≠ [] ∨ state.Begun → pieces ≠ [] ∨ next.Begun) := by
  induction front generalizing state with
  | nil => exact ⟨[], state, fun _ => rfl, fun h => .inr (h.resolve_left fun hnil => hnil rfl)⟩
  | cons b front ih =>
    obtain ⟨pieces, next, hread, hreads⟩ := ih (state.feed b).2
    refine ⟨(state.feed b).1 ++ pieces, next, fun rest => ?_, fun _ => ?_⟩
    · rw [List.cons_append, scanFrom, hread, List.append_assoc]
    · rcases feed_reads b state with hfirst | hbegun
      · exact .inl fun hnil => hfirst (List.append_eq_nil_iff.mp hnil).1
      · rcases hreads (.inr hbegun) with hpieces | hnext
        · exact .inl fun hnil => hpieces (List.append_eq_nil_iff.mp hnil).2
        · exact .inr hnext

/-- Octets, or a character that has begun, are read as something. -/
theorem scanFrom_ne_nil {bytes : Bytes} {state : State} (h : bytes ≠ [] ∨ state.Begun) :
    scanFrom state bytes ≠ [] := by
  obtain ⟨pieces, next, hread, hreads⟩ := exists_scanFrom_append bytes state
  have hall := hread []
  rw [List.append_nil] at hall
  rw [hall]
  rcases hreads h with hpieces | hnext
  · exact fun hnil => hpieces (List.append_eq_nil_iff.mp hnil).1
  · cases next with
    | between => cases hnext
    | inside => exact fun hnil => by simp [scanFrom, State.finish] at hnil

/-! ## Lengths -/

/-- What is still to be read of octets before: one gap when a character has begun. -/
def State.pending (state : State) : Nat :=
  state.finish.length

theorem length_feed_le (b : UInt8) (state : State) :
    (state.feed b).1.length + (state.feed b).2.pending ≤ state.pending + 1 := by
  have hstart : (State.start b).1.length + (State.start b).2.pending ≤ 1 := by
    rw [State.start]
    split_ifs <;> simp [State.pending, State.finish]
  cases state with
  | between => exact hstart
  | inside owed low high value =>
    have hpending : (State.inside owed low high value).pending = 1 := rfl
    rw [State.feed, hpending]
    split_ifs
    · exact Nat.le_succ 1
    · exact Nat.le_succ 1
    · show (State.start b).1.length + 1 + (State.start b).2.pending ≤ 1 + 1
      omega

theorem length_scanFrom_le (bytes : Bytes) (state : State) :
    (scanFrom state bytes).length ≤ bytes.length + state.pending := by
  induction bytes generalizing state with
  | nil => exact Nat.le_add_left _ _
  | cons b bytes ih =>
    have hfeed := length_feed_le b state
    have hrest := ih (state.feed b).2
    rw [scanFrom, List.length_append, List.length_cons]
    omega

/-- At most one character is read for each octet. -/
theorem length_decodeLossy_le (bytes : Bytes) : (decodeLossy bytes).length ≤ bytes.length := by
  rw [decodeLossy, List.length_map]
  exact length_scanFrom_le bytes .between

/-! ## Cuts -/

/-- A part of the octets of a character is one gap. -/
theorem scan_part {c : Char} {part rest : Bytes} (h : String.utf8EncodeChar c = part ++ rest)
    (hpart : part ≠ []) (hrest : rest ≠ []) : scan part = [none] := by
  obtain ⟨pieces, next, hread, hreads⟩ := exists_scanFrom_append part .between
  have hwhole : [some c] = pieces ++ scanFrom next rest := by
    rw [← hread, ← h]
    have hchar := scanFrom_encodeChar c []
    rw [List.append_nil] at hchar
    exact hchar.symm
  -- The one character of the whole is read from the rest, so that nothing is read before.
  obtain rfl : pieces = [] := by
    have htail : scanFrom next rest ≠ [] := scanFrom_ne_nil (.inl hrest)
    cases pieces with
    | nil => rfl
    | cons piece more =>
      have hnil := (List.cons.inj hwhole).2
      exact absurd (List.append_eq_nil_iff.mp hnil.symm).2 htail
  have hpartRead := hread []
  rw [List.append_nil] at hpartRead
  rw [scan, hpartRead]
  cases next with
  | between => exact absurd (hreads (.inl hpart)) (by simp [State.Begun])
  | inside => rfl

/-- How many octets text has. -/
def size (text : List Char) : Nat :=
  (encode text).length

theorem size_append (text more : List Char) : size (text ++ more) = size text + size more := by
  rw [size, encode_append, List.length_append]
  rfl

theorem size_le_of_prefix {text more : List Char} (h : text <+: more) : size text ≤ size more := by
  obtain ⟨behind, rfl⟩ := h
  rw [size_append]
  exact Nat.le_add_right _ _

/-- The longest of the texts that `text` begins with and that have no more than `limit` octets. -/
structure Fitting (limit : Nat) (text front : List Char) : Prop where
  begins : front <+: text
  fits : size front ≤ limit
  longest : ∀ more, more <+: text → size more ≤ limit → more <+: front

/-- A cut after `limit` octets goes through a character of `text`. -/
def Severs (limit : Nat) (text : List Char) : Prop :=
  ∃ front c behind, text = front ++ c :: behind ∧ size front < limit ∧ limit < size (front ++ [c])

/-- Text up to the character that is the first not to fit. -/
theorem exists_fitting (limit : Nat) (text : List Char) :
    ∃ front behind, text = front ++ behind ∧ size front ≤ limit ∧
      ∀ c ∈ behind.head?, limit < size (front ++ [c]) := by
  induction text generalizing limit with
  | nil => exact ⟨[], [], rfl, Nat.zero_le _, nofun⟩
  | cons c text ih =>
    by_cases hfits : size [c] ≤ limit
    · obtain ⟨front, behind, rfl, hfront, hnext⟩ := ih (limit - size [c])
      refine ⟨c :: front, behind, rfl, ?_, fun d hd => ?_⟩
      · have hsize := size_append [c] front
        rw [List.singleton_append] at hsize
        omega
      · have hsize := size_append [c] (front ++ [d])
        have hlarge := hnext d hd
        rw [List.singleton_append, ← List.cons_append] at hsize
        omega
    · refine ⟨[], c :: text, rfl, Nat.zero_le _, ?_⟩
      rintro _ ⟨⟩
      exact Nat.lt_of_not_le hfits

/-- What is read before a cut is the text that fits, and then what is left of the next character. -/
theorem scan_take_encode {limit : Nat} {front : List Char} (hfront : size front ≤ limit)
    (behind : List Char) :
    scan ((encode (front ++ behind)).take limit)
      = front.map some ++ scan ((encode behind).take (limit - size front)) := by
  have hwhole : (encode front).take limit = encode front := List.take_of_length_le hfront
  rw [encode_append, List.take_append, hwhole, scan_encode_append]
  rfl

section

variable {limit : Nat} {front behind : List Char} (hfront : size front ≤ limit)
  (hnext : ∀ c ∈ behind.head?, limit < size (front ++ [c]))

include hfront hnext

/-- Text up to the first character that does not fit is the longest that fits. -/
theorem fitting_of_next : Fitting limit (front ++ behind) front where
  begins := List.prefix_append front behind
  fits := hfront
  longest more hmore hsize := by
    rcases List.prefix_or_prefix_of_prefix hmore (List.prefix_append front behind) with h | h
    · exact h
    · obtain ⟨tail, rfl⟩ := h
      cases tail with
      | nil => rw [List.append_nil]
      | cons c tail =>
        have hhead : c ∈ behind.head? := by
          obtain ⟨rest, hrest⟩ := (List.prefix_append_right_inj front).mp hmore
          rw [← hrest]
          rfl
        have hlarge := hnext c hhead
        have hpart : size (front ++ [c]) ≤ size (front ++ c :: tail) :=
          size_le_of_prefix ⟨tail, by simp⟩
        omega

/-- The cut goes through a character exactly when octets are left and there is a character for them.
-/
theorem severs_iff : Severs limit (front ++ behind) ↔ size front < limit ∧ behind ≠ [] := by
  constructor
  · rintro ⟨first, c, rest, htext, hbefore, hafter⟩
    have hwhole : first ++ [c] <+: front ++ behind := ⟨rest, by simp [htext]⟩
    have hlarge : ¬ first ++ [c] <+: front := by
      intro h
      have hsize := size_le_of_prefix h
      omega
    constructor
    · rcases List.prefix_or_prefix_of_prefix hwhole (List.prefix_append front behind) with h | h
      · exact absurd h hlarge
      · rcases List.prefix_concat_iff.mp h with rfl | h
        · exact absurd (List.prefix_refl _) hlarge
        · have hsize := size_le_of_prefix h
          omega
    · rintro rfl
      rw [List.append_nil] at hwhole
      exact hlarge hwhole
  · rintro ⟨hless, hbehind⟩
    obtain ⟨c, rest, rfl⟩ := List.exists_cons_of_ne_nil hbehind
    exact ⟨front, c, rest, rfl, hless, hnext c rfl⟩

/-- What is left of a character that does not fit is one gap. -/
theorem scan_take_severed (hsevers : Severs limit (front ++ behind)) :
    scan ((encode behind).take (limit - size front)) = [none] := by
  obtain ⟨hless, hbehind⟩ := (severs_iff hfront hnext).mp hsevers
  obtain ⟨c, rest, rfl⟩ := List.exists_cons_of_ne_nil hbehind
  have hlarge := hnext c rfl
  have hlength : size [c] = (String.utf8EncodeChar c).length := by simp [size, encode]
  rw [size_append, hlength] at hlarge
  have hpart : (encode (c :: rest)).take (limit - size front)
      = (String.utf8EncodeChar c).take (limit - size front) := by
    rw [encode_cons, List.take_append_of_le_length (by omega)]
  rw [hpart]
  refine scan_part (List.take_append_drop _ _).symm ?_ ?_
  · exact List.length_pos_iff.mp (by rw [List.length_take]; omega)
  · exact List.length_pos_iff.mp (by rw [List.length_drop]; omega)

/-- A cut between two characters, or behind the last one, leaves nothing of the next. -/
theorem scan_take_whole (hwhole : ¬ Severs limit (front ++ behind)) :
    scan ((encode behind).take (limit - size front)) = [] := by
  rw [severs_iff hfront hnext, not_and_not_right] at hwhole
  by_cases hless : size front < limit
  · have hnothing : encode behind = [] := congrArg encode (hwhole hless)
    rw [hnothing, List.take_nil]
    rfl
  · rw [Nat.sub_eq_zero_of_le (Nat.le_of_not_lt hless)]
    rfl

end

/-- What is read from the first octets of a text: the longest text that fits into them, and one
U+FFFD behind it when the cut goes through a character. -/
theorem decodeLossy_take_encode (limit : Nat) (text : List Char) :
    ∃ front, Fitting limit text front ∧
      (Severs limit text → decodeLossy ((encode text).take limit) = front ++ ['\uFFFD']) ∧
      (¬ Severs limit text → decodeLossy ((encode text).take limit) = front) := by
  obtain ⟨front, behind, rfl, hfront, hnext⟩ := exists_fitting limit text
  have hread : ∀ left : List (Option Char),
      (front.map some ++ left).map (·.getD '\uFFFD') = front ++ left.map (·.getD '\uFFFD') := by
    intro left
    rw [List.map_append, List.map_map]
    exact congrArg (· ++ _) (List.map_id front)
  refine ⟨front, fitting_of_next hfront hnext, fun hsevers => ?_, fun hwhole => ?_⟩
  · rw [decodeLossy, scan_take_encode hfront behind, scan_take_severed hfront hnext hsevers, hread]
    rfl
  · rw [decodeLossy, scan_take_encode hfront behind, scan_take_whole hfront hnext hwhole, hread]
    exact List.append_nil front

end Utf8

end Onboarding
