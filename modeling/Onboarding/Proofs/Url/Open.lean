import Onboarding.Proofs.Url.Reading

/-!
# Parts without marks

A question mark opens the query of a URL and a number sign its fragment.  No part that is read
before them holds such a mark, whatever the text was.

* Text.  `StaysOpen.encode` carries this through any encoder, and numerals hold no mark either
  (`staysOpen_toDigits`).
* Paths.  They stay open when segments are added (`staysOpen_addSegments`), and `staysOpen_readPath`
  and its neighbours are about paths that are read.
* Authorities.  `staysOpen_host` and `staysOpen_plainHost` are about the two ways to read a host,
  and `staysOpen_readAuthority` about all that is read before the path.
-/

namespace Onboarding

namespace Numeral

/-- A numeral is made of digits. -/
theorem exists_digitChar {base n : Nat} (hbase : 1 < base) {c : Char} (h : c ∈ Nat.toDigits base n) :
    ∃ d < base, c = Nat.digitChar d := by
  induction n using Nat.strong_induction_on with
  | h n ih =>
    rw [Nat.toDigits_eq_if hbase] at h
    split at h
    · next hsmall => exact ⟨n, hsmall, List.mem_singleton.mp h⟩
    · next hlarge =>
      rcases List.mem_append.mp h with h | h
      · exact ih (n / base) (Nat.div_lt_self (by omega) hbase) h
      · exact ⟨n % base, Nat.mod_lt n (by omega), List.mem_singleton.mp h⟩

end Numeral

namespace Url

/-! ## Text -/

theorem StaysOpen.of_subset {text more : List Char} (h : StaysOpen more) (hsubset : text ⊆ more) :
    StaysOpen text :=
  fun c hc => h c (hsubset hc)

/-- Text without marks can be encoded in any way. -/
theorem StaysOpen.encode {text : List Char} (h : StaysOpen text) (e : Percent.Escapes) :
    StaysOpen (Percent.encode e text) := by
  intro c hc
  rcases Percent.mem_encode hc with hc | rfl | halnum
  · exact h c hc
  · rfl
  · refine isPathEnd_eq_false_iff.mpr ⟨?_, ?_⟩ <;>
    · rintro rfl
      exact absurd halnum (by decide)

/-- A numeral holds no mark. -/
theorem staysOpen_toDigits {base : Nat} (hbase : 1 < base) (hdigits : base ≤ 16) (n : Nat) :
    StaysOpen (Nat.toDigits base n) := by
  have hall : ∀ d < 16, isPathEnd (Nat.digitChar d) = false := by decide
  intro c hc
  obtain ⟨d, hd, rfl⟩ := Numeral.exists_digitChar hbase hc
  exact hall d (by omega)

theorem staysOpen_joined {separator : Char} (hseparator : isPathEnd separator = false)
    {pieces : List (List Char)} (hpieces : ∀ piece ∈ pieces, StaysOpen piece) :
    StaysOpen (Split.joined separator pieces) := by
  induction pieces with
  | nil => exact staysOpen_nil
  | cons piece rest ih =>
    obtain ⟨hpiece, hrest⟩ := List.forall_mem_cons.mp hpieces
    cases rest with
    | nil => exact hpiece
    | cons next more => exact hpiece.append (.cons hseparator (ih hrest))

/-- A sign of a scheme is no mark, in lower case neither. -/
theorem isPathEnd_lower {c : Char} (h : isSchemeChar c = true) : isPathEnd (Domain.lower c) = false := by
  have hascii : c.toNat < 128 := by
    simp only [isSchemeChar, isLetter, Bool.or_eq_true, Bool.and_eq_true, decide_eq_true_eq,
      beq_iff_eq, Char.le_def, UInt32.le_iff_toNat_le] at h
    rcases h with ((((⟨-, h⟩ | ⟨-, h⟩) | ⟨-, h⟩) | rfl) | rfl) | rfl
    · exact Nat.lt_of_le_of_lt h (by decide)
    · exact Nat.lt_of_le_of_lt h (by decide)
    · exact Nat.lt_of_le_of_lt h (by decide)
    · decide
    · decide
    · decide
  have hall : ∀ n < 128, isSchemeChar (Char.ofNat n) = true →
      isPathEnd (Domain.lower (Char.ofNat n)) = false := by
    decide
  have hc := hall c.toNat hascii
  rw [Char.ofNat_toNat] at hc
  exact hc h

/-- A scheme holds no mark. -/
theorem staysOpen_scheme {text scheme rest : List Char} (h : readScheme text = some (scheme, rest)) :
    StaysOpen scheme := by
  unfold readScheme at h
  split at h
  · next first more rest' hspan =>
    split at h
    · cases h
      intro c hc
      obtain ⟨sign, hsign, rfl⟩ := List.mem_map.mp hc
      rw [List.span_eq_takeWhile_dropWhile] at hspan
      have hfirst : text.takeWhile isSchemeChar = first :: more := congrArg Prod.fst hspan
      exact isPathEnd_lower (List.mem_takeWhile_imp (hfirst ▸ hsign))
    · cases h
  · cases h

/-! ## Paths -/

section

variable {family : Family}

/-- A segment is added without marks, also when it takes another away. -/
theorem staysOpen_addSegment {path segment : List Char} (hpath : StaysOpen path)
    (hsegment : StaysOpen segment) (slash : Bool) :
    StaysOpen (addSegment family path segment slash) := by
  have hslash : StaysOpen ['/'] := staysOpen_slashes 1
  have hwith : ∀ {text}, StaysOpen text → StaysOpen (withSlash text) := by
    intro text h
    rw [withSlash]
    split
    · exact h
    · exact h.append hslash
  have hdrop : StaysOpen (dropSlash path) := by
    rw [dropSlash]
    split
    · exact hpath.of_subset (List.dropLast_subset path)
    · exact hpath
  have hcut : StaysOpen (upToSlash (dropSlash path)) :=
    hdrop.of_subset (List.rdropWhile_prefix (· != '/') (dropSlash path)).subset
  have hup : StaysOpen (shorten family (dropSlash path)) := by
    unfold shorten
    split
    · split
      · exact hdrop
      · exact hcut
    · exact hcut
  unfold addSegment
  split
  · dsimp only
    split
    · exact hwith hup
    · exact hup
  · split
    · exact hwith hpath
    · have htail : StaysOpen (if slash then ['/'] else []) := by
        split
        · exact hslash
        · exact staysOpen_nil
      refine (hpath.append ?_).append htail
      split
      · split
        · exact .cons (hsegment _ List.mem_cons_self) (.cons rfl staysOpen_nil)
        · exact hsegment
      · exact hsegment

theorem staysOpen_addSegments {path : List Char} {segments : List (List Char)}
    (hpath : StaysOpen path) (hsegments : ∀ segment ∈ segments, StaysOpen segment) :
    StaysOpen (addSegments family path segments) := by
  induction segments generalizing path with
  | nil => exact hpath
  | cons segment rest ih =>
    obtain ⟨hsegment, hrest⟩ := List.forall_mem_cons.mp hsegments
    cases rest with
    | nil => exact staysOpen_addSegment hpath hsegment false
    | cons next more => exact ih (staysOpen_addSegment hpath hsegment true) hrest

/-- A path that was read holds no mark. -/
theorem staysOpen_readPath {start : List Char} (hstart : StaysOpen start) (text : List Char) :
    StaysOpen (readPath family start text).1 := by
  have hgrown : StaysOpen (addSegments family start
      ((Split.pieces (isSeparator family) (text.span (!isPathEnd ·)).1).map
        (Percent.encode Percent.path))) := by
    refine staysOpen_addSegments hstart fun segment hsegment => ?_
    obtain ⟨piece, -, rfl⟩ := List.mem_map.mp hsegment
    exact staysOpen_encode rfl rfl piece
  show StaysOpen (settle family _)
  rw [settle]
  split
  · exact .cons rfl (hgrown.of_subset (List.dropWhile_suffix _).subset)
  · exact hgrown

theorem staysOpen_readPathStart (text : List Char) : StaysOpen (readPathStart family text).1 := by
  have hroot : StaysOpen ['/'] := staysOpen_slashes 1
  unfold readPathStart
  split
  · split
    · exact hroot
    · exact staysOpen_nil
  · split
    · exact staysOpen_readPath hroot _
    · split
      · exact staysOpen_nil
      · refine staysOpen_readPath ?_ _
        split
        · exact staysOpen_nil
        · exact hroot

theorem staysOpen_readFilePath (text : List Char) : StaysOpen (readFilePath text).1 := by
  refine staysOpen_readPath ?_ _
  split
  · exact staysOpen_nil
  · exact staysOpen_slashes 1

end

/-! ## Authorities -/

theorem staysOpen_ipv6 (groups : List Nat) : StaysOpen (Ipv6.text groups) := by
  have hplain : ∀ groups, StaysOpen (Ipv6.plain groups) := by
    intro groups
    refine staysOpen_joined rfl fun piece hpiece => ?_
    obtain ⟨n, -, rfl⟩ := List.mem_map.mp hpiece
    exact staysOpen_toDigits (by decide) (by decide) n
  unfold Ipv6.text
  dsimp only
  split
  · exact hplain groups
  · exact (hplain _).append (.cons rfl (.cons rfl (hplain _)))

theorem staysOpen_ipv4 (address : Nat) : StaysOpen (Ipv4.text address) := by
  refine staysOpen_joined rfl fun piece hpiece => ?_
  obtain ⟨n, -, rfl⟩ := List.mem_map.mp hpiece
  exact staysOpen_toDigits (by decide) (by decide) n

theorem staysOpen_bracketed {inside : List Char} {host : Host}
    (h : Host.parseBracketed inside = .ok host) : StaysOpen host.text := by
  unfold Host.parseBracketed at h
  split at h
  · split at h
    · cases h
      exact (StaysOpen.cons rfl (staysOpen_ipv6 _)).append (.cons rfl staysOpen_nil)
    · cases h
  · cases h

/-- A domain name holds no mark. -/
theorem staysOpen_domain {domain name : List Char} (h : Domain.toAscii? domain = some name) :
    StaysOpen name := by
  have hrefused : name.any Domain.isRefusedAscii = false := by
    unfold Domain.toAscii? at h
    split at h
    · cases h
    · dsimp only at h
      split at h
      · cases h
      · split at h
        · cases h
        · next hany =>
          cases h
          simpa using hany
  intro c hc
  refine isPathEnd_eq_false_iff.mpr ⟨?_, ?_⟩ <;>
  · rintro rfl
    exact List.any_eq_false.mp hrefused _ hc (by decide)

/-- The host of a URL with a web scheme, or of a file. -/
theorem staysOpen_host {text : List Char} {host : Host} (h : Host.parse text = .ok host) :
    StaysOpen host.text := by
  unfold Host.parse at h
  split at h
  · exact staysOpen_bracketed h
  · split at h
    · cases h
    · next domain hdomain =>
      obtain ⟨_, -, hascii⟩ := Option.bind_eq_some_iff.mp hdomain
      split at h
      · cases h
      · split at h
        · split at h
          · cases h
            exact staysOpen_ipv4 _
          · cases h
        · cases h
          exact staysOpen_domain hascii

/-- The host of a URL with another scheme. -/
theorem staysOpen_plainHost {text : List Char} {host : Host} (h : Host.parsePlain text = .ok host) :
    StaysOpen host.text := by
  unfold Host.parsePlain at h
  split at h
  · exact staysOpen_bracketed h
  · split at h
    · cases h
    · next hrefused =>
      cases h
      refine StaysOpen.encode (fun c hc => isPathEnd_eq_false_iff.mpr ⟨?_, ?_⟩) _ <;>
      · rintro rfl
        exact hrefused (List.any_eq_true.mpr ⟨_, hc, by decide⟩)

/-- What is written for an authority holds no mark when none of its parts does. -/
theorem staysOpen_authorityText {a : Authority} (husername : StaysOpen a.username)
    (hpassword : ∀ password, a.password = some password → StaysOpen password)
    (hhost : StaysOpen a.host.text) : StaysOpen (authorityText a) := by
  have hat : StaysOpen ['@'] := .cons rfl staysOpen_nil
  have huserinfo : StaysOpen (userinfoText a) := by
    unfold userinfoText
    split
    · next password hsome =>
      exact (husername.append (.cons rfl (hpassword password hsome))).append hat
    · split
      · exact staysOpen_nil
      · exact husername.append hat
  refine ((StaysOpen.cons rfl (.cons rfl huserinfo)).append hhost).append ?_
  split
  · exact .cons rfl (staysOpen_toDigits (by decide) (by decide) _)
  · exact staysOpen_nil

/-- What was mapped came from a result. -/
theorem exists_of_map_eq_ok {ε α β : Type} {f : α → β} {x : Except ε α} {b : β}
    (h : x.map f = .ok b) : ∃ a, x = .ok a ∧ f a = b := by
  cases x with
  | error e => cases h
  | ok a => exact ⟨a, rfl, Except.ok.inj h⟩

/-- A host that was read holds no mark, whatever the scheme is. -/
theorem staysOpen_readHost {family : Family} {text rest : List Char} {host : Host}
    (h : readHost family text = .ok (host, rest)) : StaysOpen host.text := by
  unfold readHost at h
  dsimp only at h
  split at h
  · cases h
  · obtain ⟨_, hparsed, ⟨⟩⟩ := exists_of_map_eq_ok h
    split at hparsed
    · exact staysOpen_host hparsed
    · exact staysOpen_plainHost hparsed

/-- The host that is read behind user information, which is kept. -/
theorem staysOpen_readHostPort {scheme username text rest : List Char}
    {password : Option (List Char)} {a : Authority}
    (h : readHostPort scheme username password text = .ok (a, rest)) :
    a.username = username ∧ a.password = password ∧ StaysOpen a.host.text := by
  unfold readHostPort at h
  cases hread : readHost (family scheme) text with
  | error e =>
    rw [hread] at h
    cases h
  | ok found =>
    obtain ⟨host, more⟩ := found
    rw [hread] at h
    simp only [bind, Except.bind] at h
    split at h
    · cases h
    · split at h
      · split at h
        · cases h
        · cases h
          exact ⟨rfl, rfl, staysOpen_readHost hread⟩
      · cases h
        exact ⟨rfl, rfl, staysOpen_readHost hread⟩

/-- An authority that was read holds no mark. -/
theorem staysOpen_readAuthority {scheme text rest : List Char} {a : Authority}
    (h : readAuthority scheme text = .ok (a, rest)) : StaysOpen (authorityText a) := by
  unfold readAuthority at h
  split at h
  · obtain ⟨husername, hpassword, hhost⟩ := staysOpen_readHostPort h
    exact staysOpen_authorityText (husername ▸ staysOpen_nil) (by simp [hpassword]) hhost
  · next userinfo text' _ =>
    dsimp only at h
    split at h
    · cases h
    · obtain ⟨husername, hpassword, hhost⟩ := staysOpen_readHostPort h
      refine staysOpen_authorityText ?_ (fun password hsome => ?_) hhost
      · rw [husername]
        exact staysOpen_encode rfl rfl _
      · rw [hpassword] at hsome
        unfold readUserinfo at hsome
        dsimp only at hsome
        split at hsome
        · cases hsome
        · cases hsome
          exact staysOpen_encode rfl rfl _

end Url

end Onboarding
