import Onboarding.Proofs.Batch.Addresses
import Onboarding.Proofs.Identity.Talk
import Onboarding.Proofs.Text.Form
import Onboarding.Proofs.Url.Marks

/-!
# What a search asks for

The address of a search holds the pairs of the base URL and behind them the name that is searched,
so that no name changes another pair, and no two names are searched at one address.

* Pairs.  Adding pairs to a URL that is marked adds them to the pairs that are read from its text,
  and changes nothing else there (`pairsIn_withPairs`, `withoutQuery_withPairs`).
* Searches.  `find_asks` draws the conclusion for the one request of a search.
-/

namespace Onboarding

namespace Form

/-- Pairs bring no number sign into text. -/
theorem number_not_mem_foldl_append {text : List Char} (h : '#' ∉ text)
    (pairs : List (String × String)) : '#' ∉ pairs.foldl append text := by
  have hplain : ∀ s, '#' ∉ encodeText s := sign_not_mem_encodeText (by decide)
  induction pairs generalizing text with
  | nil => exact h
  | cons pair pairs ih =>
    refine ih ?_
    have hpair : '#' ∉ encodePair pair := by simp [encodePair, hplain]
    rw [append]
    split
    · exact hpair
    · simp [h, hpair]

end Form

namespace Url

/-! ## Pairs -/

/-- The pairs in the query of a written URL. -/
def pairsIn (text : String) : List (String × String) :=
  Form.decode ((queryIn text.toList).getD [])

section

variable {u : Url} (h : u.Marked) (pairs : List (String × String))

include h

theorem Marked.withPairs : (u.withPairs pairs).Marked where
  scheme := h.scheme
  authority := h.authority
  path := h.path
  query := by
    rintro _ ⟨⟩
    refine Form.number_not_mem_foldl_append ?_ pairs
    cases hquery : u.query with
    | none => exact List.not_mem_nil
    | some query => exact h.query query hquery

/-- Pairs that are added are read behind those that are there. -/
theorem pairsIn_withPairs : pairsIn (u.withPairs pairs).text = pairsIn u.text ++ pairs := by
  rw [pairsIn, pairsIn, queryIn_text (h.withPairs pairs), queryIn_text h]
  exact Form.decode_withPairs _ pairs

/-- Nothing but the query is changed. -/
theorem withoutQuery_withPairs :
    withoutQuery (u.withPairs pairs).text.toList = withoutQuery u.text.toList := by
  rw [withoutQuery_text (h.withPairs pairs), withoutQuery_text h]
  rfl

end

end Url

namespace Keycloak

/-! ## Searches -/

/-- The base URL and the address of all users are marked. -/
theorem usersUrl_marked {base realm : String} {k : Keycloak} (h : make base realm = .ok k) :
    k.base.Marked ∧ k.usersUrl.Marked := by
  obtain ⟨hparse, hcarries⟩ := carries_of_make h
  have hbase := Url.parse_marked hparse
  obtain ⟨hencloses, hquery⟩ := usersUrl_encloses hcarries
  exact ⟨hbase, hencloses.marked hbase (hquery ▸ hbase.query)⟩

/-- What a search asks for, whatever the base URL, the realm and the name are.  Its one request goes
to the address of all users, with a query in which the pairs of the base URL, as they are, come
before the name that is searched and the pair that asks for an exact match.  Two searches go to one
address only when they are for one name. -/
theorem find_asks {σ : Type} {base realm : String} {k : Keycloak} (h : make base realm = .ok k)
    (send : Http.Transport σ) (session : Session) (username : String) (s : σ)
    (turns : List Http.Turn) :
    (∃ answer, (k.find send.recorded session username (s, turns)).state.2
        = turns ++ [⟨⟨"GET", (k.searchUrl username).text, [session.authorization], none⟩, answer⟩]) ∧
      Url.pairsIn (k.searchUrl username).text
        = Url.pairsIn k.base.text ++ [("username", username), ("exact", "true")] ∧
      Url.withoutQuery (k.searchUrl username).text.toList
        = Url.withoutQuery k.usersUrl.text.toList ∧
      ∀ other, (k.searchUrl other).text = (k.searchUrl username).text ↔ other = username := by
  obtain ⟨hbase, husers⟩ := usersUrl_marked h
  have hkept : Url.pairsIn k.usersUrl.text = Url.pairsIn k.base.text := by
    obtain ⟨-, hquery⟩ := usersUrl_encloses (carries_of_make h).2
    rw [Url.pairsIn, Url.pairsIn, Url.queryIn_text husers, Url.queryIn_text hbase, hquery]
  have hpairs : ∀ name, Url.pairsIn (k.searchUrl name).text
      = Url.pairsIn k.base.text ++ [("username", name), ("exact", "true")] := by
    intro name
    rw [searchUrl, Url.pairsIn_withPairs husers, hkept]
  refine ⟨?_, hpairs username, Url.withoutQuery_withPairs husers _, fun other => ?_⟩
  · obtain ⟨answer, -, hsends⟩ := k.find_sends send.recorded session username (s, turns)
    exact ⟨answer, hsends.recorded⟩
  · constructor
    · intro htext
      have hsame := congrArg Url.pairsIn htext
      rw [hpairs, hpairs, List.append_cancel_left_eq] at hsame
      simpa using hsame
    · rintro rfl
      rfl

/-- A Keycloak with a query and a fragment of its own. -/
def queriedKeycloak : Keycloak where
  base := ⟨"https".toList, some ⟨[], none, .name "kc.example".toList, none⟩, ['/'],
    some "q=1&".toList, some "top".toList⟩
  realm := "dev"

theorem find_asks_queried :
    make "https://kc.example/?q=1&#top" "dev" = .ok queriedKeycloak ∧
      (queriedKeycloak.searchUrl "a&b=c#é +").text
        = "https://kc.example/admin/realms/dev/users?q=1&&username=a%26b%3Dc%23%C3%A9+%2B&exact=true#top"
      ∧ Url.pairsIn (queriedKeycloak.searchUrl "a&b=c#é +").text
        = [("q", "1"), ("username", "a&b=c#é +"), ("exact", "true")] ∧
      (queriedKeycloak.searchUrl "a&b=c#é  ").text
        ≠ (queriedKeycloak.searchUrl "a&b=c#é +").text := by
  have hmake : make "https://kc.example/?q=1&#top" "dev" = .ok queriedKeycloak := by decide +kernel
  have hbase : Url.pairsIn queriedKeycloak.base.text = [("q", "1")] := by decide +kernel
  obtain ⟨-, hpairs, -, hsame⟩ := find_asks hmake Http.Script.send (.ofToken "token")
    "a&b=c#é +" (.ofAnswers []) []
  rw [hbase] at hpairs
  exact ⟨hmake, by decide +kernel, hpairs, fun htext => absurd ((hsame _).mp htext) (by decide)⟩

end Keycloak

end Onboarding
