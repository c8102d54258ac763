import Onboarding.Proofs.Url.Reading

/-!
# URLs that keep to a base

What is built on a URL keeps to it: the same scheme, authority and fragment, and a path that goes on
behind its path.

* `below_encloses`: guided segments put below a URL, whatever text the free ones are.
* `withPairs_encloses`: the pairs of a search, which only the query shows.
-/

namespace Onboarding

namespace Url

/-- A URL that keeps to `base`.  Its path is that of `base` without the slashes at its end, and goes
on with a slash; no sign behind it closes the path. -/
structure Encloses (base u : Url) : Prop where
  scheme : u.scheme = base.scheme
  authority : u.authority = base.authority
  fragment : u.fragment = base.fragment
  path : ∃ rest, u.path = stripped base.path ++ '/' :: rest ∧ StaysOpen rest

/-- A URL that was read and can carry a path. -/
structure Carries (base : Url) : Prop where
  hierarchy : base.hasHierarchy = true
  rooted : Rooted (family base.scheme) base.path

variable {base : Url}

/-- Segments can always be put below a URL that can carry a path. -/
theorem Carries.below?_isSome (h : base.Carries) (segments : List String) :
    (base.below? segments).isSome = true := by
  rw [below?, if_pos h.hierarchy]
  rfl

/-- Guided segments, a plain one first, lead to a URL that keeps to the one that they are put
below. -/
theorem Carries.below_encloses (h : base.Carries) {name : String} (hname : Plain name)
    {rest : List String} (hrest : Guided true rest) :
    base.Encloses (base.below (name :: rest)) ∧ (base.below (name :: rest)).query = base.query := by
  have hbelow := inside_of_guided h.rooted hname hrest
  rw [below, below?, if_pos h.hierarchy]
  exact ⟨⟨rfl, rfl, rfl, hbelow.below⟩, rfl⟩

/-- A query with the pairs of a search behind it. -/
def searchQuery (query : Option (List Char)) (username : String) : List Char :=
  let start := query.getD []
  (if start.isEmpty then [] else start ++ ['&'])
    ++ "username=".toList ++ Form.encodeText username ++ "&exact=true".toList

/-- No user's name opens a pair of its own, or closes the query. -/
theorem closed_of_mem_encodeText {username : String} {c : Char}
    (hc : c ∈ Form.encodeText username) : c ≠ '&' ∧ c ≠ '=' ∧ c ≠ '#' := by
  refine ⟨?_, ?_, ?_⟩ <;>
  · rintro rfl
    exact Form.sign_not_mem_encodeText (by decide) username hc

/-- What the pairs of a search make of a query. -/
theorem append_search (start : List Char) (username : String) :
    [("username", username), ("exact", "true")].foldl Form.append start
      = searchQuery (some start) username := by
  have hname : Form.encodePair ("username", username)
      = "username=".toList ++ Form.encodeText username := by
    have htext : Form.encodeText "username" = "username".toList := by decide +kernel
    rw [Form.encodePair, htext]
    rfl
  have hexact : Form.encodePair ("exact", "true") = "exact=true".toList := by decide +kernel
  have hfirst : Form.append start ("username", username)
      = (if start.isEmpty then [] else start ++ ['&'])
        ++ ("username=".toList ++ Form.encodeText username) := by
    rw [Form.append, hname]
    split
    · rfl
    · simp
  have hfull : (Form.append start ("username", username)).isEmpty = false := by
    rw [hfirst]
    simp
  show Form.append (Form.append start ("username", username)) ("exact", "true") = _
  rw [Form.append, hfull, hfirst, hexact, searchQuery]
  simp

/-- The pairs of a search are put behind the query and change nothing else. -/
theorem withPairs_encloses {u : Url} (h : base.Encloses u) (username : String) :
    base.Encloses (u.withPairs [("username", username), ("exact", "true")]) ∧
      (u.withPairs [("username", username), ("exact", "true")]).query
        = some (searchQuery u.query username) :=
  ⟨⟨h.scheme, h.authority, h.fragment, h.path⟩, congrArg some (append_search _ username)⟩

end Url

end Onboarding
