import Mathlib.Data.List.TakeWhile
import Onboarding.Proofs.Text.Percent
import Onboarding.Proofs.Text.Split

/-!
# Form data read back

Pairs are read as they were written, whatever text their names and values are, and also when they
are written behind text that is there already.

* Parts.  What is written for an octet reads as that octet (`decode_spaced_encodeOctet`), so that
  names and values are read back (`decodeText_encodeText`), and with them a pair
  (`decodePair_encodePair`).
* Pairs.  A pair that is put behind text is read behind the pairs of that text, which stay as they
  are (`decode_append`).  `decode_withPairs` carries this along a list of pairs, and `decode_encode`
  is the case where nothing stands before them.
-/

namespace Onboarding

namespace Form

/-! ## Octets -/

/-- The pairs that octets hold. -/
def read (octets : Bytes) : List (String × String) :=
  ((Split.pieces (· == 0x26) octets).filter (!·.isEmpty)).map decodePair

theorem decode_eq_read (text : List Char) : decode text = read (Utf8.encode text) := rfl

/-- Octets with a space for every plus sign. -/
def spaced (octets : Bytes) : Bytes :=
  octets.map (fun b => if b = 0x2B then 0x20 else b)

theorem spaced_append (octets more : Bytes) : spaced (octets ++ more) = spaced octets ++ spaced more :=
  List.map_append

/-- Without a plus sign nothing becomes a space. -/
theorem spaced_encode {text : List Char} (h : '+' ∉ text) :
    spaced (Utf8.encode text) = Utf8.encode text := by
  have hplus : (0x2B : UInt8) ∉ Utf8.encode text :=
    fun hmem => h ((Utf8.octet_mem_encode_iff (d := '+') (by decide) text).mp hmem)
  have hsame : ∀ b ∈ Utf8.encode text, (if b = 0x2B then 0x20 else b) = id b := by
    intro b hb
    refine if_neg ?_
    rintro rfl
    exact hplus hb
  rw [spaced, List.map_congr_left hsame, List.map_id]

/-! ## Parts -/

/-- What is written for an octet reads as that octet. -/
theorem decode_spaced_encodeOctet (b : UInt8) (rest : Bytes) :
    Percent.decode (spaced (Utf8.encode (encodeOctet b)) ++ rest) = b :: Percent.decode rest := by
  rw [encodeOctet]
  split
  · next hspace =>
    have hwritten : spaced (Utf8.encode ['+']) = [0x20] := by decide
    rw [hwritten, hspace, List.singleton_append, Percent.decode_cons_of_ne (by decide)]
  · split
    · next hplain =>
      have hplus : b ≠ 0x2B := by
        rintro rfl
        exact absurd hplain (by decide)
      have hmark : b ≠ 0x25 := by
        rintro rfl
        exact absurd hplain (by decide)
      have hself : spaced [b] = [b] := congrArg (· :: []) (if_neg hplus)
      rw [Percent.encode_char_of_octet (lt_of_isPlain hplain), hself, List.singleton_append,
        Percent.decode_cons_of_ne hmark]
    · rw [spaced_encode (Percent.not_mem_escape (by decide) (by decide) b), Percent.decode_escape]

/-- A name or a value is read back. -/
theorem decodeText_encodeText (s : String) : decodeText (Utf8.encode (encodeText s)) = s := by
  have hoctets : ∀ octets : Bytes,
      Percent.decode (spaced (Utf8.encode (octets.flatMap encodeOctet))) = octets := by
    intro octets
    induction octets with
    | nil => rfl
    | cons b rest ih =>
      rw [List.flatMap_cons, Utf8.encode_append, spaced_append, decode_spaced_encodeOctet, ih]
  show Utf8.toStringLossy (Percent.decode (spaced (Utf8.encode (encodeText s)))) = s
  rw [encodeText, hoctets, Utf8.toStringLossy_ofString]

/-- No name and no value holds a sign that separates. -/
theorem octet_not_mem_encodeText (sign : Char) (hsign : sign ∈ ['&', '=', '#']) (s : String) :
    UInt8.ofNat sign.toNat ∉ Utf8.encode (encodeText s) := by
  have hascii : sign.toNat < 0x80 := by
    have hcases : sign = '&' ∨ sign = '=' ∨ sign = '#' := by simpa using hsign
    rcases hcases with rfl | rfl | rfl <;> decide
  rw [Utf8.octet_mem_encode_iff hascii]
  exact sign_not_mem_encodeText hsign s

/-- The octets of a pair. -/
theorem octets_encodePair (pair : String × String) :
    Utf8.encode (encodePair pair)
      = Utf8.encode (encodeText pair.1) ++ 0x3D :: Utf8.encode (encodeText pair.2) := by
  rw [encodePair, Utf8.encode_append, Utf8.encode_cons]
  rfl

/-- A pair is read back: it is cut at its equals sign, and there is no other. -/
theorem decodePair_encodePair (pair : String × String) :
    decodePair (Utf8.encode (encodePair pair)) = pair := by
  have hname : ∀ b ∈ Utf8.encode (encodeText pair.1), (b != 0x3D) = true := by
    intro b hb
    rw [bne_iff_ne]
    rintro rfl
    exact octet_not_mem_encodeText '=' (by decide) pair.1 hb
  rw [decodePair, octets_encodePair, List.takeWhile_append_of_pos hname,
    List.dropWhile_append_of_pos hname, List.takeWhile_cons_of_neg (by decide),
    List.dropWhile_cons_of_neg (by decide), List.append_nil, List.drop_one, List.tail_cons,
    decodeText_encodeText, decodeText_encodeText]

/-! ## Pairs -/

/-- A pair by itself. -/
theorem read_encodePair (pair : String × String) : read (Utf8.encode (encodePair pair)) = [pair] := by
  have hone : ∀ b ∈ Utf8.encode (encodePair pair), ¬ (b == 0x26) = true := by
    intro b hb hamp
    obtain rfl := beq_iff_eq.mp hamp
    rw [octets_encodePair, List.mem_append, List.mem_cons] at hb
    rcases hb with hb | hb | hb
    · exact octet_not_mem_encodeText '&' (by decide) pair.1 hb
    · exact absurd hb (by decide)
    · exact octet_not_mem_encodeText '&' (by decide) pair.2 hb
  have hfull : (Utf8.encode (encodePair pair)).isEmpty = false := by
    rw [octets_encodePair]
    simp
  rw [read, Split.pieces_of_none hone, List.filter_cons_of_pos (by simp [hfull]), List.filter_nil,
    List.map_singleton, decodePair_encodePair]

/-- Text before and behind an ampersand is read by itself. -/
theorem decode_append_cons (text more : List Char) :
    decode (text ++ '&' :: more) = decode text ++ decode more := by
  have hwritten : Utf8.encode (text ++ '&' :: more) = Utf8.encode text ++ 0x26 :: Utf8.encode more := by
    rw [Utf8.encode_append, Utf8.encode_cons]
    rfl
  rw [decode, hwritten, Split.pieces_append_cons (by decide), List.filter_append, List.map_append]
  rfl

/-- A pair that is put behind text is read behind the pairs of that text. -/
theorem decode_append (text : List Char) (pair : String × String) :
    decode (append text pair) = decode text ++ [pair] := by
  have hpair : decode (encodePair pair) = [pair] := by
    rw [decode_eq_read, read_encodePair]
  rw [append]
  split
  · next hempty =>
    obtain rfl := List.isEmpty_iff.mp hempty
    rw [hpair]
    rfl
  · rw [decode_append_cons, hpair]

/-- Pairs that are put behind text are read behind the pairs of that text, in order. -/
theorem decode_withPairs (text : List Char) (pairs : List (String × String)) :
    decode (pairs.foldl append text) = decode text ++ pairs := by
  induction pairs generalizing text with
  | nil => rw [List.foldl_nil, List.append_nil]
  | cons pair pairs ih =>
    rw [List.foldl_cons, ih, decode_append, List.append_assoc, List.singleton_append]

/-- Pairs are read back. -/
theorem decode_encode (pairs : List (String × String)) : decode (encode pairs) = pairs :=
  decode_withPairs [] pairs

end Form

end Onboarding
