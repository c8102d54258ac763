import Onboarding.Proofs.Batch.Addresses
import Onboarding.Proofs.Url.Segments

/-!
# Whose account is written

The account that is written for a record is the one that its URL names: the last segment of the path
stands for the full name of the user, but for tabs and line ends, which a URL drops.  Two users
therefore have one account exactly when their names differ in nothing else, and a roster can hold
two such users.

* `userUrl_eq`: the URL of an account, with the text of the full name behind a path that is the same
  for all users.
* `userUrl_names`: what the URLs name, and when two of them are the same.
-/

namespace Onboarding

open Url (Plain Stays counted segmentText)

namespace Synapse

variable {c : Synapse}

/-- A full name is added as it is written. -/
theorem stays_userId (family : Url.Family) (username : String) :
    Stays (segmentText family (c.userId username)) := by
  have hname : (c.userId username).toList
      = '@' :: (username.toList ++ ':' :: c.serverName.toList) := by
    simp [userId]
  have hkept : (c.userId username).toList.filter (!Url.isIgnored ·)
      = '@' :: (username.toList ++ ':' :: c.serverName.toList).filter (!Url.isIgnored ·) := by
    rw [hname]
    exact List.filter_cons_of_pos rfl
  obtain ⟨rest, hrest⟩ : ∃ rest, segmentText family (c.userId username) = '@' :: rest := by
    cases family with
    | web | file | other =>
      rw [segmentText, hkept]
      exact ⟨_, rfl⟩
  rw [hrest]
  exact Url.stays_of_head (by decide) (by decide) rfl rest

/-- The URL of an account: the text of the full name behind a path that is the same for all users.
-/
theorem userUrl_eq (h : c.base.Carries) :
    ∃ top : List Char, 2 ≤ top.length ∧ ∀ username,
      c.userUrl username = { c.base with
        path := top ++ '/' :: segmentText (Url.family c.base.scheme) (c.userId username) } := by
  have hplain : ∀ n ∈ ["_synapse", "admin", "v2"], Plain n := by decide
  obtain ⟨top, hlength, htop⟩ := h.below_last ["_synapse", "admin", "v2"] hplain
    (by decide : Plain "users")
  exact ⟨top, hlength, fun username => htop _ (stays_userId _ username)⟩

/-- Full names count for the same when the names of the users do. -/
theorem counted_userId (u v : String) :
    counted (c.userId u) = counted (c.userId v) ↔ counted u = counted v := by
  simp only [userId, Url.counted_append]
  constructor
  · intro h
    have hlists := congrArg String.toList h
    simp only [String.toList_append, List.append_assoc, List.append_cancel_left_eq,
      List.append_cancel_right_eq] at hlists
    exact String.toList_inj.mp hlists
  · intro h
    rw [h]

/-- The last segment of the URL stands for the full name, as far as that counts. -/
theorem lastText?_userUrl (h : c.base.Carries) (username : String) :
    (c.userUrl username).lastText? = some (counted (c.userId username)) := by
  obtain ⟨top, -, hurl⟩ := userUrl_eq h
  have hlast := (Url.cut_append top
    (Url.slash_not_mem_segmentText (Url.family c.base.scheme) (c.userId username))).1
  rw [hurl, Url.lastText?, hlast, Url.segmentText_read]

/-- Two users have one URL when their names count for the same. -/
theorem text_userUrl_eq_iff (h : c.base.Carries) (u v : String) :
    (c.userUrl u).text = (c.userUrl v).text ↔ counted u = counted v := by
  obtain ⟨top, htop, hurl⟩ := userUrl_eq h
  rw [hurl, hurl, Url.text_behind c.base htop, List.cons_inj_right, Url.segmentText_eq_iff,
    counted_userId]

/-- What the URLs of accounts name, for each Synapse that can be made and all names of users.  The
last segment stands for the full name of the user without tabs and line ends, and two users have one
URL exactly when their names differ in nothing else.  So where there is no tab and no line end, the
segment stands for the full name itself, and users that differ have URLs that differ. -/
theorem userUrl_names {base name : String} {token : Secret} (h : make base name token = .ok c) :
    (∀ u, (c.userUrl u).lastText? = some (counted (c.userId u))) ∧
      (∀ u v, (c.userUrl u).text = (c.userUrl v).text ↔ counted u = counted v) ∧
      (∀ u, (∀ s ∈ (c.userId u).toList, Url.isIgnored s = false) →
        (c.userUrl u).lastText? = some (c.userId u)) ∧
      ∀ u v, (∀ s ∈ u.toList, Url.isIgnored s = false) → (∀ s ∈ v.toList, Url.isIgnored s = false) →
        u ≠ v → (c.userUrl u).text ≠ (c.userUrl v).text := by
  have hcarries := (carries_of_make h).2
  refine ⟨lastText?_userUrl hcarries, text_userUrl_eq_iff hcarries, fun u hu => ?_,
    fun u v hu hv hne htext => hne ?_⟩
  · rw [lastText?_userUrl hcarries, Url.counted_of_all hu]
  · have hcounted := (text_userUrl_eq_iff hcarries u v).mp htext
    rwa [Url.counted_of_all hu, Url.counted_of_all hv] at hcounted

/-- A Synapse at the root of a host. -/
def plainSynapse : Synapse where
  base := ⟨"https".toList, some ⟨[], none, .name "matrix.example.org".toList, none⟩, ['/'], none, none⟩
  serverName := "example.org"
  token := ⟨"syt"⟩

theorem userUrl_names_awkward :
    make "https://matrix.example.org" "example.org" ⟨"syt"⟩ = .ok plainSynapse ∧
      (plainSynapse.userUrl "a/%2F?#\x00é").text
        = "https://matrix.example.org/_synapse/admin/v2/users/@a%2F%252F%3F%23%00%C3%A9:example.org" ∧
      (plainSynapse.userUrl "a/%2F?#\x00é").lastText? = some "@a/%2F?#\x00é:example.org" ∧
      (plainSynapse.userUrl "a/%2F?#\x00é").text ≠ (plainSynapse.userUrl "a/%2F?#é").text := by
  have hmake : make "https://matrix.example.org" "example.org" ⟨"syt"⟩ = .ok plainSynapse := by
    decide +kernel
  obtain ⟨-, -, hlast, hapart⟩ := userUrl_names hmake
  refine ⟨hmake, by decide +kernel, hlast _ ?_, hapart _ _ ?_ ?_ (by decide +kernel)⟩
  · simp [userId, plainSynapse, Url.isIgnored]
  · simp [Url.isIgnored]
  · simp [Url.isIgnored]

/-- A roster with two users whose names differ in a tab. -/
def tabbedRoster : Bytes :=
  Utf8.encode "ab,Secret1\n\"a\tb\",Secret2\n".toList

/-- Users of one roster can differ and have one URL, and the URL of a user need not stand for the
full name. -/
theorem not_userUrl_apart :
    (¬ ∀ base name token c bytes records, make base name token = .ok c →
      Roster.parse bytes = .ok records → ∀ r ∈ records, ∀ r' ∈ records,
        r.username ≠ r'.username → (c.userUrl r.username).text ≠ (c.userUrl r'.username).text) ∧
      ¬ ∀ base name token c bytes records, make base name token = .ok c →
        Roster.parse bytes = .ok records → ∀ r ∈ records,
          (c.userUrl r.username).lastText? = some (c.userId r.username) := by
  have hmake : make "https://matrix.example.org" "example.org" ⟨"syt"⟩ = .ok plainSynapse := by
    decide +kernel
  have hparse : Roster.parse tabbedRoster
      = .ok [⟨"ab", ⟨"Secret1"⟩⟩, ⟨"a\tb", ⟨"Secret2"⟩⟩] := by
    decide +kernel
  have hcarries := (carries_of_make hmake).2
  constructor
  · intro hclaim
    refine hclaim _ _ _ _ _ _ hmake hparse ⟨"ab", ⟨"Secret1"⟩⟩ (by decide)
      ⟨"a\tb", ⟨"Secret2"⟩⟩ (by decide) (by decide) ?_
    exact (text_userUrl_eq_iff hcarries _ _).mpr (by decide)
  · intro hclaim
    have hlast := hclaim _ _ _ _ _ _ hmake hparse ⟨"a\tb", ⟨"Secret2"⟩⟩ (by decide)
    rw [lastText?_userUrl hcarries] at hlast
    exact absurd hlast (by decide)

end Synapse

end Onboarding
