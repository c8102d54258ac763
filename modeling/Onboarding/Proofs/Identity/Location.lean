import Onboarding.Http.Script
import Onboarding.Proofs.Batch.Addresses
import Onboarding.Proofs.Identity.Grant
import Onboarding.Proofs.Identity.LastSegment
import Onboarding.Proofs.Url.Segments

/-!
# Ids from locations

The id of a new user is cut out of the location in the answer, where it stands as it is written in a
URL, and it is written once more in the URL of the password.  A sign that is escaped in a URL is
therefore escaped twice, and the password goes elsewhere than for the id that a search gives.

* Addresses.  `passwordPath` is the path of a password, and `userUrl` is where a user is: with an id
  that does not count as dots, below the address of all users (`userUrl_eq_below`).
  `passwordPath_undotted` and its neighbours write the path of a password down for every id.
* Locations.  `cutId` is the last segment of the location of a user (`idOfLocation?_userUrl`).
* Ids.  `passwordPath_cutId_iff` says for which ids both ways lead to one path: those that are
  `Verbatim`.  `create_located` draws the conclusion for the making of a user.
-/

namespace Onboarding

namespace Url

/-- A segment that is written as itself: nothing that counts in it is escaped, and if something in
it does not count, more than dots is left without that. -/
def Verbatim (family : Family) (segment : String) : Prop :=
  segmentText family segment = (counted segment).toList ∧
    (counted segment = segment ∨ counted segment ∉ ["", ".", ".."])

/-- What a path leaves out is written as itself. -/
theorem segmentText_of_skipped (family : Family) {segment : String}
    (h : segment ∈ ["", ".", ".."]) : segmentText family segment = segment.toList := by
  revert segment
  cases family <;> decide +kernel

theorem counted_of_skipped {segment : String} (h : segment ∈ ["", ".", ".."]) :
    counted segment = segment := by
  revert segment
  decide

/-- The text of a URL without query and fragment ends in its path. -/
theorem text_of_path {u : Url} (hquery : u.query = none) (hfragment : u.fragment = none) :
    ∃ front, u.text = String.ofList (front ++ u.path) := by
  rw [text, chars, hquery, hfragment, pathText]
  split
  · exact ⟨u.scheme ++ ':' :: (u.authority.map authorityText).getD [] ++ ['/', '.'], by
      simp [marked]⟩
  · exact ⟨u.scheme ++ ':' :: (u.authority.map authorityText).getD [], by simp [marked]⟩

end Url

namespace Keycloak

open Url (Inside Led Plain counted extend segmentText)

/-! ## Addresses -/

variable {k : Keycloak}

/-- Where the user of an id is: at the address of all users, with the id as one more segment. -/
def userUrl (k : Keycloak) (id : String) : Url :=
  { k.usersUrl with
    path := k.usersUrl.path ++ '/' :: segmentText (Url.family k.base.scheme) id }

/-- The path of the password of an id. -/
def passwordPath (k : Keycloak) (id : String) : List Char :=
  extend (Url.family k.base.scheme) (extend (Url.family k.base.scheme) k.usersUrl.path id)
    "reset-password"

/-- The address of all users ends in a plain segment, behind more than the root. -/
theorem usersUrl_led (h : k.base.Carries) :
    ∃ top : List Char, 2 ≤ top.length ∧
      Led (Url.family k.base.scheme) top "users" k.usersUrl.path := by
  have hadmin : Plain "admin" := by decide
  have hrealms : Plain "realms" := by decide
  have husers : Plain "users" := by decide
  have hfirst := Url.extend_plain (Url.ready_dropEmpty h.rooted) hadmin
  obtain ⟨top, htop⟩ : ∃ top, top = extend (Url.family k.base.scheme)
      (Url.dropEmpty k.base.path) "admin" := ⟨_, rfl⟩
  rw [← htop] at hfirst
  have hlong : 1 < top.length := hfirst.long hadmin
  have hopened := (hfirst.inside hadmin).concat hlong
  have hready : Url.Ready (Url.family k.base.scheme) top top :=
    ⟨top, Url.opened_of_long hlong, hopened.rooted, [], rfl, Url.staysOpen_slashes 0⟩
  have hsecond := Url.extend_plain hready hrealms
  have hthird := Url.extend_free hsecond hrealms k.realm
  have hlast := Url.extend_plain hthird.ready husers
  refine ⟨top, hlong, ?_⟩
  have hpath : k.usersUrl.path = extend (Url.family k.base.scheme)
      (extend (Url.family k.base.scheme) (extend (Url.family k.base.scheme) top "realms") k.realm)
      "users" := by
    rw [htop, usersUrl, Url.below, Url.below?, if_pos h.hierarchy]
    rfl
  rw [hpath]
  exact hlast

theorem usersUrl_eq (h : k.base.Carries) :
    k.usersUrl = { k.base with path := k.usersUrl.path } := by
  rw [usersUrl, Url.below, Url.below?, if_pos h.hierarchy]
  rfl

theorem passwordUrl_eq (h : k.base.Carries) (id : String) :
    k.passwordUrl id = { k.base with path := k.passwordPath id } := by
  rw [passwordPath, passwordUrl, usersUrl, Url.below, Url.below, Url.below?, Url.below?,
    if_pos h.hierarchy, if_pos h.hierarchy]
  rfl

/-- Passwords have one URL when they have one path. -/
theorem text_passwordUrl_eq_iff (h : k.base.Carries) (a b : String) :
    (k.passwordUrl a).text = (k.passwordUrl b).text ↔ k.passwordPath a = k.passwordPath b := by
  obtain ⟨top, htop, husers⟩ := usersUrl_led h
  have hbehind : ∀ id, ∃ rest, k.passwordPath id = top ++ rest := by
    intro id
    have hfree := Url.extend_free husers (by decide) id
    have hreset : Plain "reset-password" := by decide
    obtain ⟨rest, hrest, -⟩ := ((Url.extend_plain hfree.ready hreset).inside hreset).below
    exact ⟨'/' :: rest, hrest⟩
  obtain ⟨rest, hrest⟩ := hbehind a
  obtain ⟨more, hmore⟩ := hbehind b
  rw [passwordUrl_eq h, passwordUrl_eq h, hrest, hmore, Url.text_behind k.base htop,
    List.append_cancel_left_eq]

/-- Behind a path of more than the root, the last segment of the path of a password. -/
theorem extend_reset {family : Url.Family} {top path : List Char} (hpath : Inside family top path)
    (hlong : 1 < path.length) :
    extend family path "reset-password" = path ++ "/reset-password".toList := by
  have hreset : Plain "reset-password" := by decide
  rw [Url.extend_undotted hpath hlong]
  · rw [hreset.segmentText_eq]
    rfl
  · rw [hreset.segmentText_eq]
    exact hreset.notDots

section

variable (h : k.base.Carries) {id : String}

include h

/-- An id that does not count as dots is put behind the address of all users as it is written. -/
theorem extend_users (hdot : counted id ≠ ".") (hdots : counted id ≠ "..") :
    extend (Url.family k.base.scheme) k.usersUrl.path id
      = k.usersUrl.path ++ '/' :: segmentText (Url.family k.base.scheme) id := by
  obtain ⟨top, -, husers⟩ := usersUrl_led h
  have hundotted : Url.isSingleDot (segmentText (Url.family k.base.scheme) id) = false ∧
      Url.isDoubleDot (segmentText (Url.family k.base.scheme) id) = false := by
    rw [Bool.eq_false_iff, Bool.eq_false_iff, ne_eq, ne_eq, Url.isSingleDot_segmentText_iff,
      Url.isDoubleDot_segmentText_iff]
    exact ⟨hdot, hdots⟩
  exact Url.extend_undotted (husers.inside (by decide)) (husers.long (by decide)) hundotted

/-- The location of such a user is the address of all users with the id below it. -/
theorem userUrl_eq_below (hdot : counted id ≠ ".") (hdots : counted id ≠ "..") :
    k.userUrl id = k.usersUrl.below [id] := by
  obtain ⟨top, -, husers⟩ := usersUrl_led h
  have hlong := husers.long (by decide)
  have hne : k.usersUrl.path ≠ [] := List.length_pos_iff.mp (by omega)
  have hhierarchy : k.usersUrl.hasHierarchy = true := by
    obtain ⟨rest, hrest⟩ := (husers.inside (by decide)).rooted.fromSlash hne
    rw [Url.hasHierarchy, hrest, List.head?_cons, beq_self_eq_true, Bool.or_true]
  have hopen : Url.endsInSlash (k.usersUrl.path.drop 1) = false := by
    obtain ⟨q, hq, -⟩ := husers
    rw [hq, Url.endsInSlash]
    cases q <;> simp
  rw [Url.below, Url.below?, if_pos hhierarchy, Option.getD_some, List.foldl_cons, List.foldl_nil,
    Url.dropEmpty, hopen, if_neg Bool.false_ne_true, userUrl, ← extend_users h hdot hdots,
    congrArg Url.scheme (usersUrl_eq h)]

/-- An id that does not count as dots is a segment of the path. -/
theorem passwordPath_undotted (hdot : counted id ≠ ".") (hdots : counted id ≠ "..") :
    k.passwordPath id = k.usersUrl.path ++ '/' :: segmentText (Url.family k.base.scheme) id
      ++ "/reset-password".toList := by
  obtain ⟨top, -, husers⟩ := usersUrl_led h
  have hlong := husers.long (by decide)
  have hadded := extend_users h hdot hdots
  have hfree := Url.extend_free husers (by decide) id
  rw [hadded] at hfree
  rw [passwordPath, hadded, extend_reset hfree (by simp; omega)]

/-- A dot and two dots are no segments of the path. -/
theorem passwordPath_skipped (hid : id = "." ∨ id = "..") :
    k.passwordPath id = k.usersUrl.path ++ "/reset-password".toList := by
  obtain ⟨top, -, husers⟩ := usersUrl_led h
  have hsame : extend (Url.family k.base.scheme) k.usersUrl.path id = k.usersUrl.path := by
    rw [extend, if_pos hid]
  rw [passwordPath, hsame, extend_reset (husers.inside (by decide)) (husers.long (by decide))]

/-- What only counts as a dot leaves an empty segment. -/
theorem passwordPath_dot (hcounted : counted id = ".") (hid : id ≠ ".") :
    k.passwordPath id = k.usersUrl.path ++ "//reset-password".toList := by
  obtain ⟨top, -, husers⟩ := usersUrl_led h
  have hsingle := (Url.isSingleDot_segmentText_iff (Url.family k.base.scheme) id).mpr hcounted
  have hdouble : Url.isDoubleDot (segmentText (Url.family k.base.scheme) id) = false := by
    rw [Bool.eq_false_iff, ne_eq, Url.isDoubleDot_segmentText_iff, hcounted]
    decide
  have hskipped : ¬ (id = "." ∨ id = "..") := by
    rintro (rfl | rfl)
    · exact hid rfl
    · exact absurd hcounted (by decide)
  have hlong := husers.long (by decide)
  have hfree := Url.extend_free husers (by decide) id
  have hadded : extend (Url.family k.base.scheme) k.usersUrl.path id
      = k.usersUrl.path ++ ['/'] := by
    have hopened := (husers.inside (by decide)).concat hlong
    rw [extend, if_neg hskipped, Url.opened_of_long hlong, Url.addSegment_dot _ _ hsingle hdouble]
    exact hopened.rooted.settled
  rw [hadded] at hfree
  rw [passwordPath, hadded, extend_reset hfree (by simp; omega), List.append_assoc]
  rfl

/-- What only counts as two dots takes the last segment of the address of all users away. -/
theorem passwordPath_dots (hcounted : counted id = "..") (hid : id ≠ "..") :
    ∃ q, k.usersUrl.path = q ++ "/users".toList ∧
      k.passwordPath id = q ++ "//reset-password".toList := by
  obtain ⟨top, htop, husers⟩ := usersUrl_led h
  have hdouble := (Url.isDoubleDot_segmentText_iff (Url.family k.base.scheme) id).mpr hcounted
  have hskipped : ¬ (id = "." ∨ id = "..") := by
    rintro (rfl | rfl)
    · exact absurd hcounted (by decide)
    · exact hid rfl
  have hlong := husers.long (by decide)
  obtain ⟨q, hq, hin⟩ := husers
  have hadded : extend (Url.family k.base.scheme) k.usersUrl.path id = q ++ ['/'] := by
    rw [extend, if_neg hskipped, Url.opened_of_long hlong, hq,
      Url.addSegment_up _ q (by decide) hdouble]
    exact hin.rooted.settled
  have hlonger : 1 < (q ++ ['/']).length := by
    obtain ⟨rest, hrest, -⟩ := hin.below
    rw [hrest]
    simp
    omega
  refine ⟨q, hq, ?_⟩
  rw [passwordPath, hadded, extend_reset hin hlonger, List.append_assoc]
  rfl

end

/-! ## Locations -/

/-- The id that is cut out of the location of a user.  Where nothing of the id is written, the
segment before it is taken. -/
def cutId (k : Keycloak) (id : String) : String :=
  if segmentText (Url.family k.base.scheme) id = [] then "users"
  else String.ofList (segmentText (Url.family k.base.scheme) id)

/-- What counts for nothing or for dots is cut out as that, or as the segment before it. -/
theorem cutId_of_counted (k : Keycloak) {id : String} (hcounted : counted id ∈ ["", ".", ".."]) :
    k.cutId id = if counted id = "" then "users" else counted id := by
  have hsame := Url.counted_of_skipped hcounted
  have htext : segmentText (Url.family k.base.scheme) id = (counted id).toList := by
    rw [← Url.segmentText_of_skipped (Url.family k.base.scheme) hcounted, Url.segmentText_eq_iff,
      hsame]
  simp only [cutId, htext, String.ofList_toList, String.toList_eq_nil_iff]

/-- What is cut out of the location of a user. -/
theorem idOfLocation?_userUrl (h : k.base.Carries) (hquery : k.base.query = none)
    (hfragment : k.base.fragment = none) (id : String) :
    idOfLocation? (k.userUrl id).text = some (k.cutId id) := by
  obtain ⟨top, -, q, hq, -⟩ := usersUrl_led h
  have hnoQuery : (k.userUrl id).query = none :=
    (congrArg Url.query (usersUrl_eq h)).trans hquery
  have hnoFragment : (k.userUrl id).fragment = none :=
    (congrArg Url.fragment (usersUrl_eq h)).trans hfragment
  obtain ⟨front, htext⟩ := Url.text_of_path hnoQuery hnoFragment
  have hpath : (k.userUrl id).path
      = q ++ '/' :: "users".toList ++ '/' :: segmentText (Url.family k.base.scheme) id := by
    rw [userUrl, hq]
  have hlocation : (k.userUrl id).text.toList
      = front ++ q ++ "/users/".toList ++ segmentText (Url.family k.base.scheme) id := by
    simp [htext, hpath]
  refine EndsIn.read ?_
  rw [cutId]
  split
  · next hnothing =>
    refine ⟨by decide, by decide, front ++ q ++ ['/'], 1, .inr List.getLast?_concat, ?_⟩
    simp [hlocation, hnothing]
  · next hsome =>
    refine ⟨?_, ?_, front ++ q ++ "/users/".toList, 0, .inr (by simp), ?_⟩
    · simpa [← String.toList_inj] using hsome
    · rw [String.toList_ofList]
      exact Url.slash_not_mem_segmentText _ id
    · simp [hlocation]

/-! ## Ids -/

section

variable (h : k.base.Carries) {id : String}

include h

/-- What only counts for nothing or for dots leads elsewhere when it is cut out of a location. -/
theorem passwordPath_cutId_ne (hid : id ∉ ["", ".", ".."])
    (hcounted : counted id ∈ ["", ".", ".."]) :
    k.passwordPath (k.cutId id) ≠ k.passwordPath id := by
  obtain ⟨-, hdot, hdots⟩ : id ≠ "" ∧ id ≠ "." ∧ id ≠ ".." := by simpa using hid
  rw [cutId_of_counted k hcounted]
  have hcases : counted id = "" ∨ counted id = "." ∨ counted id = ".." := by simpa using hcounted
  rcases hcases with hempty | hsingle | hdouble
  · have hnothing : segmentText (Url.family k.base.scheme) id
        = segmentText (Url.family k.base.scheme) "" :=
      (Url.segmentText_eq_iff _ _ _).mpr (hempty.trans (by decide))
    rw [if_pos hempty, passwordPath_undotted h (by decide) (by decide),
      passwordPath_undotted h (by simp [hempty]) (by simp [hempty]), hnothing,
      Url.segmentText_of_skipped _ (by decide : "" ∈ ["", ".", ".."]),
      (by decide : Plain "users").segmentText_eq]
    simp
  · rw [if_neg (by simp [hsingle]), hsingle, passwordPath_skipped h (.inl rfl),
      passwordPath_dot h hsingle hdot]
    simp
  · obtain ⟨q, hq, hpath⟩ := passwordPath_dots h hdouble hdots
    rw [if_neg (by simp [hdouble]), hdouble, passwordPath_skipped h (.inr rfl), hpath, hq]
    simp

/-- Anything else is cut out as it is written, and written once more. -/
theorem passwordPath_cutId_iff_of_counted (hcounted : counted id ∉ ["", ".", ".."]) :
    k.passwordPath (k.cutId id) = k.passwordPath id ↔
      segmentText (Url.family k.base.scheme) id = (counted id).toList := by
  obtain ⟨-, hdot, hdots⟩ : counted id ≠ "" ∧ counted id ≠ "." ∧ counted id ≠ ".." := by
    simpa using hcounted
  have hwritten : String.ofList (segmentText (Url.family k.base.scheme) id) ∉ ["", ".", ".."] := by
    intro hskipped
    have htext := Url.segmentText_of_skipped (Url.family k.base.scheme) hskipped
    rw [String.toList_ofList, Url.segmentText_eq_iff, Url.counted_segmentText] at htext
    exact hcounted (htext ▸ hskipped)
  obtain ⟨hne, hsingle, hdouble⟩ : segmentText (Url.family k.base.scheme) id ≠ [] ∧
      counted (String.ofList (segmentText (Url.family k.base.scheme) id)) ≠ "." ∧
      counted (String.ofList (segmentText (Url.family k.base.scheme) id)) ≠ ".." := by
    rw [Url.counted_segmentText]
    simpa using hwritten
  rw [cutId, if_neg hne, passwordPath_undotted h hsingle hdouble,
    passwordPath_undotted h hdot hdots, List.append_cancel_right_eq, List.append_cancel_left_eq,
    List.cons.injEq, and_iff_right rfl, Url.segmentText_eq_iff, Url.counted_segmentText,
    ← String.toList_inj, String.toList_ofList]

/-- Both ids lead to one path just when the id is written as itself. -/
theorem passwordPath_cutId_iff (hid : id ≠ "") :
    k.passwordPath (k.cutId id) = k.passwordPath id ↔
      Url.Verbatim (Url.family k.base.scheme) id := by
  by_cases hcounted : counted id ∈ ["", ".", ".."]
  · by_cases hskipped : id ∈ ["", ".", ".."]
    · have hsame := Url.counted_of_skipped hskipped
      have hcut : k.cutId id = id := by rw [cutId_of_counted k hcounted, hsame, if_neg hid]
      refine iff_of_true (by rw [hcut]) ⟨?_, .inl hsame⟩
      rw [hsame, Url.segmentText_of_skipped _ hskipped]
    · refine iff_of_false (passwordPath_cutId_ne h hskipped hcounted) fun hverbatim => ?_
      rcases hverbatim.2 with hsame | hnone
      · exact hskipped (hsame ▸ hcounted)
      · exact hnone hcounted
  · rw [passwordPath_cutId_iff_of_counted h hcounted]
    exact ⟨fun htext => ⟨htext, .inr hcounted⟩, And.left⟩

end

/-- What an answer with the location of a user leads to.  The id of the new user is what is cut out
of the location, and its password goes where the password of that user goes exactly when the id is
written as itself. -/
theorem create_located {σ : Type} {base realm : String} {k : Keycloak}
    (hmake : make base realm = .ok k) (hquery : k.base.query = none)
    (hfragment : k.base.fragment = none) (send : Http.Transport σ) (session : Session)
    (username : String) (s : σ) {id : String} (hid : id ≠ "")
    (hstatus : (send (k.createRequest session username) s).value.status = 201)
    (hlocation : (send (k.createRequest session username) s).value.header? "Location"
      = some (k.userUrl id).text) :
    (k.create send session username s).value = .ok (k.cutId id) ∧
      ∀ password, (k.passwordRequest session (k.cutId id) password).url
          = (k.passwordRequest session id password).url ↔
        Url.Verbatim (Url.family k.base.scheme) id := by
  obtain ⟨-, hcarries⟩ := carries_of_make hmake
  have hlocated : locatedId? (send (k.createRequest session username) s).value
      = some (k.cutId id) := by
    rw [locatedId?, hlocation, Option.bind_some,
      idOfLocation?_userUrl hcarries hquery hfragment]
  refine ⟨(k.create_of_granted send session username s hstatus hlocated).1, fun password => ?_⟩
  exact (text_passwordUrl_eq_iff hcarries _ _).trans (passwordPath_cutId_iff hcarries hid)

/-- An answer to the making of a user whose id has a space. -/
def spacedAnswer : Http.Response :=
  ⟨201, [("Location", "https://kc.example/admin/realms/dev/users/a%20b")], []⟩

theorem create_located_spaced :
    spacedAnswer.header? "Location" = some (plainKeycloak.userUrl "a b").text ∧
      (plainKeycloak.create Http.Script.send (.ofToken "token") "alice"
          (.ofAnswers [spacedAnswer])).value = .ok "a%20b" ∧
      (plainKeycloak.passwordUrl "a%20b").text
        = "https://kc.example/admin/realms/dev/users/a%2520b/reset-password" ∧
      (plainKeycloak.passwordUrl "a b").text
        = "https://kc.example/admin/realms/dev/users/a%20b/reset-password" ∧
      ¬ Url.Verbatim .web "a b" := by
  have hmake : make "https://kc.example" "dev" = .ok plainKeycloak := by decide +kernel
  have hlocation : spacedAnswer.header? "Location" = some (plainKeycloak.userUrl "a b").text := by
    decide +kernel
  obtain ⟨hcreate, hurl⟩ := create_located hmake rfl rfl Http.Script.send (.ofToken "token") "alice"
    (.ofAnswers [spacedAnswer]) (by decide : "a b" ≠ "") rfl hlocation
  have hcut : plainKeycloak.cutId "a b" = "a%20b" := by decide +kernel
  have hcut_url : (plainKeycloak.passwordUrl "a%20b").text
      = "https://kc.example/admin/realms/dev/users/a%2520b/reset-password" := by decide +kernel
  have hid_url : (plainKeycloak.passwordUrl "a b").text
      = "https://kc.example/admin/realms/dev/users/a%20b/reset-password" := by decide +kernel
  refine ⟨hlocation, hcut ▸ hcreate, hcut_url, hid_url, fun hverbatim => ?_⟩
  have hsame := (hurl ⟨"pw"⟩).mpr hverbatim
  rw [hcut] at hsame
  exact absurd (hcut_url.symm.trans (hsame.trans hid_url)) (by decide)

/-- The id that is cut out of the location of a user need not lead where the id of the user leads.
-/
theorem not_create_located_same :
    ¬ ∀ (base realm : String) (k : Keycloak), make base realm = .ok k → k.base.query = none →
      k.base.fragment = none → ∀ (session : Session) (username id : String) (answer : Http.Response),
        id ≠ "" → answer.status = 201 → answer.header? "Location" = some (k.userUrl id).text →
        ∃ made, (k.create Http.Script.send session username (.ofAnswers [answer])).value = .ok made ∧
          (k.passwordUrl made).text = (k.passwordUrl id).text := by
  intro hclaim
  obtain ⟨made, hmade, hsame⟩ := hclaim "https://kc.example" "dev" plainKeycloak
    (by decide +kernel) rfl rfl (.ofToken "token") "alice" "a b" spacedAnswer (by decide) rfl
    (by decide +kernel)
  have hcreate : (plainKeycloak.create Http.Script.send (.ofToken "token") "alice"
      (.ofAnswers [spacedAnswer])).value = .ok "a%20b" := by
    decide +kernel
  obtain rfl : "a%20b" = made := Except.ok.inj (hcreate.symm.trans hmade)
  revert hsame
  decide +kernel

end Keycloak

end Onboarding
