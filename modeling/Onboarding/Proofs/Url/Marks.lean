import Onboarding.Proofs.Url.Below
import Onboarding.Proofs.Url.Open

/-!
# The marks in a URL

Whatever text a URL was read from, its query begins at the first question mark that is written and
its fragment at the first number sign, so that both can be cut out of the written URL again.

* Cutting.  `queryIn` and `withoutQuery` cut written URLs, and give what was written for a URL that
  is `Marked` (`queryIn_text`, `withoutQuery_text`).
* URLs.  Each URL that is read is marked (`parse_marked`), and so is one that keeps to a marked one
  (`Encloses.marked`).
-/

namespace Onboarding

namespace Url

/-! ## Cutting -/

/-- The query in the text of a URL: what stands behind the first question mark, up to the fragment.
-/
def queryIn (text : List Char) : Option (List Char) :=
  match (text.takeWhile (· != '#')).dropWhile (· != '?') with
  | [] => none
  | _ :: query => some query

/-- The text of a URL without its query. -/
def withoutQuery (text : List Char) : List Char :=
  text.takeWhile (!isPathEnd ·) ++ text.dropWhile (· != '#')

/-- A URL in which the marks stand only where query and fragment begin. -/
structure Marked (u : Url) : Prop where
  scheme : StaysOpen u.scheme
  authority : ∀ a ∈ u.authority, StaysOpen (authorityText a)
  path : StaysOpen u.path
  query : ∀ query ∈ u.query, '#' ∉ query

/-- What is written before the query. -/
def front (u : Url) : List Char :=
  u.scheme ++ ':' :: ((u.authority.map authorityText).getD []) ++ u.pathText

theorem chars_eq (u : Url) : u.chars = u.front ++ (marked '?' u.query ++ marked '#' u.fragment) := by
  rw [chars, front, List.append_assoc]

section

variable {u : Url}

theorem Marked.front (h : u.Marked) : StaysOpen u.front := by
  have hauthority : StaysOpen ((u.authority.map authorityText).getD []) := by
    cases ha : u.authority with
    | none => exact staysOpen_nil
    | some a => exact h.authority a ha
  have hpath : StaysOpen u.pathText := by
    rw [pathText]
    split
    · exact .cons rfl (.cons rfl h.path)
    · exact h.path
  exact (h.scheme.append (.cons rfl hauthority)).append hpath

/-- No number sign stands before the fragment. -/
theorem Marked.before_fragment (h : u.Marked) :
    ∀ c ∈ u.front ++ marked '?' u.query, (c != '#') = true := by
  intro c hc
  rw [bne_iff_ne]
  rintro rfl
  rcases List.mem_append.mp hc with hc | hc
  · cases h.front _ hc
  · cases hquery : u.query with
    | none =>
      rw [hquery] at hc
      cases hc
    | some query =>
      rw [hquery] at hc
      rcases List.mem_cons.mp hc with hc | hc
      · cases hc
      · exact h.query query hquery hc

/-- The query is cut out of the written URL. -/
theorem queryIn_text (h : u.Marked) : queryIn u.text.toList = u.query := by
  have hfragment : (marked '#' u.fragment).takeWhile (· != '#') = [] := by
    cases u.fragment <;> rfl
  have hopen : ∀ c ∈ u.front, (c != '?') = true := by
    intro c hc
    rw [bne_iff_ne]
    rintro rfl
    cases h.front _ hc
  rw [text, String.toList_ofList, chars_eq, ← List.append_assoc, queryIn,
    List.takeWhile_append_of_pos h.before_fragment, hfragment, List.append_nil,
    List.dropWhile_append_of_pos hopen]
  cases u.query <;> rfl

/-- The rest is what is written for the URL without its query. -/
theorem withoutQuery_text (h : u.Marked) :
    withoutQuery u.text.toList = ({ u with query := none } : Url).text.toList := by
  have hmarks : (marked '?' u.query ++ marked '#' u.fragment).takeWhile (!isPathEnd ·) = [] := by
    cases u.query <;> cases u.fragment <;> rfl
  have hopen : ∀ c ∈ u.front, (!isPathEnd c) = true := by
    intro c hc
    rw [h.front c hc]
    rfl
  have hfragment : (marked '#' u.fragment).dropWhile (· != '#') = marked '#' u.fragment := by
    cases u.fragment <;> rfl
  rw [text, text, String.toList_ofList, String.toList_ofList, withoutQuery]
  rw [chars_eq, List.takeWhile_append_of_pos hopen, hmarks, ← List.append_assoc,
    List.dropWhile_append_of_pos h.before_fragment, hfragment, List.append_nil]
  exact (chars_eq { u with query := none }).symm

end

/-! ## URLs -/

/-- A URL of parts without marks, and of the text after its path. -/
theorem build_marked {scheme : List Char} {authority : Option Authority}
    {path : List Char × List Char} (hscheme : StaysOpen scheme)
    (hauthority : ∀ a ∈ authority, StaysOpen (authorityText a)) (hpath : StaysOpen path.1) :
    (build scheme authority path).Marked where
  scheme := hscheme
  authority := hauthority
  path := hpath
  query query hsome := by
    have hclosed : ∀ e : Percent.Escapes, e 0x23 = true → ∀ text, '#' ∉ Percent.encode e text :=
      fun e he => Percent.not_mem_encode he (by decide) (by decide)
    change (readTail (family scheme) path.2).1 = some query at hsome
    unfold readTail at hsome
    dsimp only at hsome
    split at hsome
    · cases hsome
    · cases hsome
      split
      · exact hclosed _ rfl _
      · exact hclosed _ rfl _

/-- The authority of a file with no host. -/
theorem staysOpen_bare : StaysOpen (authorityText ⟨[], none, .name [], none⟩) :=
  staysOpen_slashes 2

theorem readFile_marked {scheme text : List Char} {u : Url} (hscheme : StaysOpen scheme)
    (h : readFile scheme text = .ok u) : u.Marked := by
  have hbare : ∀ a ∈ some (⟨[], none, .name [], none⟩ : Authority), StaysOpen (authorityText a) := by
    rintro _ ⟨⟩
    exact staysOpen_bare
  have hroot : StaysOpen ['/'] := staysOpen_slashes 1
  unfold readFile at h
  split at h
  · split at h
    · dsimp only at h
      split at h
      · cases h
        exact build_marked hscheme hbare (staysOpen_readPath hroot _)
      · split at h
        · cases h
          exact build_marked hscheme hbare (staysOpen_readFilePath _)
        · split at h
          · cases h
          · next parsed hparsed =>
            split at h
            · cases h
              exact build_marked hscheme hbare (staysOpen_readFilePath _)
            · cases h
              refine build_marked hscheme ?_ (staysOpen_readPathStart _)
              rintro _ ⟨⟩
              refine staysOpen_authorityText staysOpen_nil nofun ?_
              dsimp only
              split
              · exact staysOpen_nil
              · exact staysOpen_host hparsed
    · cases h
      exact build_marked hscheme hbare (staysOpen_readFilePath _)
  · cases h
    exact build_marked hscheme hbare (staysOpen_readFilePath _)

/-- A URL of an authority that was read and of what stands behind it. -/
theorem marked_of_authority {scheme text : List Char} {family : Family} {u : Url}
    (hscheme : StaysOpen scheme)
    (h : ((readAuthority scheme text).map fun (authority, rest) =>
      build scheme authority (readPathStart family rest)) = .ok u) : u.Marked := by
  obtain ⟨⟨a, rest⟩, hread, rfl⟩ := exists_of_map_eq_ok h
  refine build_marked hscheme ?_ (staysOpen_readPathStart _)
  rintro _ ⟨⟩
  exact staysOpen_readAuthority hread

theorem readRest_marked {scheme text : List Char} {u : Url} (hscheme : StaysOpen scheme)
    (h : readRest scheme text = .ok u) : u.Marked := by
  have hnone : ∀ a ∈ (none : Option Authority), StaysOpen (authorityText a) := nofun
  unfold readRest at h
  split at h
  · exact readFile_marked hscheme h
  · exact marked_of_authority hscheme h
  · split at h
    · exact marked_of_authority hscheme h
    · cases h
      exact build_marked hscheme hnone (staysOpen_readPath (staysOpen_slashes 1) _)
    · rw [List.span_eq_takeWhile_dropWhile] at h
      cases h
      refine build_marked hscheme hnone (StaysOpen.encode (fun c hc => ?_) _)
      simpa using List.mem_takeWhile_imp hc

/-- Every URL that is read is marked. -/
theorem parse_marked {s : String} {u : Url} (h : parse s = .ok u) : u.Marked := by
  unfold parse at h
  split at h
  · next scheme rest hscheme => exact readRest_marked (staysOpen_scheme hscheme) h
  · cases h

/-- A URL that keeps to a marked one is marked, when its query holds no number sign. -/
theorem Encloses.marked {base u : Url} (h : base.Encloses u) (hbase : base.Marked)
    (hquery : ∀ query ∈ u.query, '#' ∉ query) : u.Marked where
  scheme := h.scheme ▸ hbase.scheme
  authority := h.authority ▸ hbase.authority
  path := by
    obtain ⟨rest, hpath, hrest⟩ := h.path
    rw [hpath]
    exact (hbase.path.of_subset (List.rdropWhile_prefix _ _).subset).append (.cons rfl hrest)
  query := hquery

end Url

end Onboarding
