import Onboarding.Http.Script
import Onboarding.Proofs.Clients
import Onboarding.Proofs.Http.Turn
import Onboarding.Proofs.Identity.Token
import Onboarding.Proofs.Json.Members
import Onboarding.Proofs.Json.Written

/-!
# What grants a token

Which answers to a token request open a session.  The seconds that a grant may name are of no use to
a run, but they have to be seconds: a grant that names anything else there is not read, and grants
no token.

* Grants.  `Grants` says which values grant a token, and `grant?_eq_some_iff` that these are the
  ones from which one is read.
* The request.  `authenticate_decides` says how a request for a token ends, by the one answer to it.
-/

namespace Onboarding

namespace Keycloak

open Json (valuesNamed valuesOf)

/-! ## Grants -/

/-- What may stand for the seconds of a grant: nothing, null, or a natural number that fits in 64
bits. -/
inductive Ending : Option Json → Option Nat → Prop where
  | missing : Ending none none
  | null : Ending (some .null) none
  | seconds {n : Nat} (fits : n < UInt64.size) : Ending (some (.number ⟨false, n, []⟩)) (some n)

/-- A value that grants a token: an object with one token and at most one value for the seconds,
among other members whose names are text, or an array of the two. -/
inductive Grants : Json → String → Option Nat → Prop where
  | object {members : List (Option String × Json)} {token : String} {value : Option Json}
      {seconds : Option Nat} (named : ∀ m ∈ members, m.1.isSome)
      (one : valuesNamed "access_token" members = [Json.text token])
      (atMostOne : valuesNamed "expires_in" members = value.toList)
      (ending : Ending value seconds) : Grants (.object members) token seconds
  | array {token : String} {value : Option Json} {seconds : Option Nat}
      (ending : Ending value seconds) : Grants (.array (Json.text token :: value.toList)) token seconds

/-- A value that may be left out, and is a token. -/
theorem optional?_text_iff {value : Option Json} {token : String} :
    optional? Json.text? value = some (some token) ↔ value = some (Json.text token) := by
  match value with
  | none | some .null => simp [optional?, Json.text]
  | some (.string none) => simp [optional?, Json.text?, Json.text]
  | some (.string (some found)) => simp [optional?, Json.text?, Json.text]
  | some (.bool _) | some (.number _) | some (.array _) | some (.object _) =>
    simp [optional?, Json.text?, Json.text]

/-- The numbers of seconds. -/
theorem seconds?_eq_some_iff {value : Json} {n : Nat} :
    seconds? value = some n ↔ value = .number ⟨false, n, []⟩ ∧ n < UInt64.size := by
  match value with
  | .number ⟨negative, whole, tail⟩ =>
    have hnatural : JsonNumber.natural? ⟨negative, whole, tail⟩ = some n ↔
        negative = false ∧ whole = n ∧ tail = [] := by
      cases negative with
      | true => simp [JsonNumber.natural?]
      | false => cases tail <;> simp [JsonNumber.natural?]
    rw [seconds?, Option.filter_eq_some_iff, hnatural]
    simp only [Json.number.injEq, JsonNumber.mk.injEq, decide_eq_true_eq]
  | .null | .bool _ | .string _ | .array _ | .object _ => simp [seconds?]

/-- A value that may be left out, and stands for seconds. -/
theorem optional?_seconds_iff {value : Option Json} {seconds : Option Nat} :
    optional? seconds? value = some seconds ↔ Ending value seconds := by
  constructor
  · intro h
    match value with
    | none =>
      cases h
      exact .missing
    | some .null =>
      cases h
      exact .null
    | some (.number n) =>
      obtain ⟨seconds, hseconds, rfl⟩ := Option.map_eq_some_iff.mp h
      obtain ⟨hnumber, hfits⟩ := seconds?_eq_some_iff.mp hseconds
      rw [hnumber]
      exact .seconds hfits
    | some (.bool _) | some (.string _) | some (.array _) | some (.object _) => cases h
  · intro h
    cases h with
    | missing | null => rfl
    | @seconds n hfits => exact congrArg (Option.map some) (seconds?_eq_some_iff.mpr ⟨rfl, hfits⟩)

/-- A token is read from the values that grant it. -/
theorem grant?_eq_some_iff {json : Json} {token : String} {seconds : Option Nat} :
    grant? json = some (some token, seconds) ↔ Grants json token seconds := by
  constructor
  · intro h
    match json with
    | .object members =>
      simp only [grant?, Option.bind_eq_bind, Option.bind_eq_some_iff, Option.pure_def,
        Option.some_inj, Prod.mk.injEq] at h
      obtain ⟨named, hnamed, _, hone, _, htoken, value, hvalue, _, hending, rfl, rfl⟩ := h
      obtain rfl := optional?_text_iff.mp htoken
      rw [Json.only?_eq_some_iff, Json.valuesOf_namedMembers hnamed] at hone hvalue
      exact .object (Json.exists_namedMembers_iff.mp ⟨named, hnamed⟩) hone hvalue
        (optional?_seconds_iff.mp hending)
    | .array items =>
      rw [grant?] at h
      split at h
      · cases h
      · next hshort =>
        simp only [Option.bind_eq_bind, Option.bind_eq_some_iff, Option.pure_def, Option.some_inj,
          Prod.mk.injEq] at h
        obtain ⟨_, htoken, _, hending, rfl, rfl⟩ := h
        have hfirst := optional?_text_iff.mp htoken
        match items with
        | [] => cases hfirst
        | [first] =>
          obtain rfl : first = Json.text token := Option.some.inj hfirst
          exact @Grants.array token none _ (optional?_seconds_iff.mp hending)
        | [first, second] =>
          obtain rfl : first = Json.text token := Option.some.inj hfirst
          exact @Grants.array token (some second) _ (optional?_seconds_iff.mp hending)
        | _ :: _ :: _ :: _ => simp at hshort
    | .null | .bool _ | .number _ | .string _ => cases h
  · intro h
    cases h with
    | @object members _ value _ hnamed hone hvalue hending =>
      obtain ⟨named, hread⟩ := Json.exists_namedMembers_iff.mpr hnamed
      rw [← Json.valuesOf_namedMembers hread] at hone hvalue
      have htoken : Json.only? "access_token" named = some (some (Json.text token)) :=
        Json.only?_eq_some_iff.mpr hone
      have hsome : Json.only? "expires_in" named = some value := Json.only?_eq_some_iff.mpr hvalue
      simp [grant?, hread, htoken, hsome, optional?_text_iff.mpr rfl,
        optional?_seconds_iff.mpr hending]
    | @array _ value _ hending =>
      have hread := optional?_seconds_iff.mpr hending
      have htoken := optional?_text_iff.mpr (rfl : some (Json.text token) = _)
      cases value with
      | none => simp [grant?, htoken, hread]
      | some value => simp [grant?, htoken, hread]

/-- A body that holds a value which grants a token. -/
def GrantedBy (body : Bytes) (token : String) (seconds : Option Nat) : Prop :=
  ∃ json, Json.parse? body = some json ∧ Grants json token seconds

/-- What is read from a body as a grant. -/
theorem grantedBy_iff {body : Bytes} {token : String} {seconds : Option Nat} :
    GrantedBy body token seconds ↔
      (Json.parse? body).bind grant? = some (some token, seconds) := by
  rw [Option.bind_eq_some_iff]
  exact exists_congr fun json => and_congr_right fun _ => grant?_eq_some_iff.symm

/-- A token can be used when it is granted and is not empty. -/
theorem usableToken?_eq_some_iff {body : Bytes} {token : String} :
    usableToken? body = some token ↔ token ≠ "" ∧ ∃ seconds, GrantedBy body token seconds := by
  have hkept : ∀ granted : Option String,
      granted.filter (!·.isEmpty) = some token ↔ granted = some token ∧ token ≠ "" := by
    intro granted
    simp [Option.filter_eq_some_iff]
  rw [usableToken?, Option.bind_eq_some_iff]
  constructor
  · rintro ⟨⟨granted, seconds⟩, hgrant, htoken⟩
    obtain ⟨rfl, hne⟩ := (hkept granted).mp htoken
    exact ⟨hne, seconds, grantedBy_iff.mpr hgrant⟩
  · rintro ⟨hne, seconds, hgrant⟩
    exact ⟨(some token, seconds), grantedBy_iff.mp hgrant, (hkept (some token)).mpr ⟨rfl, hne⟩⟩

/-! ## The request -/

section

variable {σ : Type} (k : Keycloak) (send : Http.Transport σ) (credentials : Credentials) (s : σ)

/-- The request for the token is all that is sent. -/
theorem authenticate_state :
    (k.authenticate send credentials s).state = (send (k.tokenRequest credentials) s).state := by
  by_cases hstatus : (send (k.tokenRequest credentials) s).value.status = 200
  · cases htoken : usableToken? (send (k.tokenRequest credentials) s).value.body with
    | none =>
      obtain ⟨_, hasked⟩ := authenticate_of_unusable k send credentials s hstatus htoken
      rw [hasked]
    | some token =>
      obtain ⟨_, hasked⟩ := authenticate_of_usable k send credentials s hstatus htoken
      rw [hasked]
  · rw [authenticate_of_refused k send credentials s hstatus]

/-- A session is opened by an answer with status 200 that grants a token which is not empty. -/
theorem authenticate_eq_ok_iff {token : String} {seconds : Option Nat} :
    (k.authenticate send credentials s).value = .ok ⟨⟨token⟩, seconds⟩ ↔
      (send (k.tokenRequest credentials) s).value.status = 200 ∧ token ≠ "" ∧
        GrantedBy (send (k.tokenRequest credentials) s).value.body token seconds := by
  constructor
  · intro h
    by_cases hstatus : (send (k.tokenRequest credentials) s).value.status = 200
    · cases husable : usableToken? (send (k.tokenRequest credentials) s).value.body with
      | none =>
        obtain ⟨_, hasked⟩ := authenticate_of_unusable k send credentials s hstatus husable
        rw [hasked] at h
        cases h
      | some found =>
        obtain ⟨hne, granted, hgrant⟩ := usableToken?_eq_some_iff.mp husable
        rw [authenticate_of_grant k send credentials s hstatus (grantedBy_iff.mp hgrant) hne] at h
        cases h
        exact ⟨hstatus, hne, hgrant⟩
    · rw [authenticate_of_refused k send credentials s hstatus] at h
      cases h
  · rintro ⟨hstatus, hne, hgrant⟩
    rw [authenticate_of_grant k send credentials s hstatus (grantedBy_iff.mp hgrant) hne]

/-- There is no token in an answer with status 200 that grants none, or only an empty one. -/
theorem authenticate_eq_empty_iff :
    (k.authenticate send credentials s).value = .error .emptyToken ↔
      (send (k.tokenRequest credentials) s).value.status = 200 ∧
        ∀ token seconds, GrantedBy (send (k.tokenRequest credentials) s).value.body token seconds →
          token = "" := by
  by_cases hstatus : (send (k.tokenRequest credentials) s).value.status = 200
  · cases husable : usableToken? (send (k.tokenRequest credentials) s).value.body with
    | none =>
      obtain ⟨_, hasked⟩ := authenticate_of_unusable k send credentials s hstatus husable
      rw [hasked]
      refine iff_of_true rfl ⟨hstatus, fun token seconds hgrant => ?_⟩
      by_contra hne
      rw [usableToken?_eq_some_iff.mpr ⟨hne, seconds, hgrant⟩] at husable
      cases husable
    | some token =>
      obtain ⟨hne, seconds, hgrant⟩ := usableToken?_eq_some_iff.mp husable
      rw [authenticate_of_grant k send credentials s hstatus (grantedBy_iff.mp hgrant) hne]
      exact iff_of_false nofun fun h => hne (h.2 token seconds hgrant)
  · rw [authenticate_of_refused k send credentials s hstatus]
    exact iff_of_false nofun fun h => hstatus h.1

end

/-- How a request for a token ends, whatever it is answered.  It is the only request.  The answer
opens a session exactly when its status is 200 and it grants a token that is not empty: as the only
token of an object whose names are text and whose seconds, if it names any, are null or a number
that fits in 64 bits, or as the first item of an array that goes on with such seconds at most.  Any
other answer with status 200 leaves the run without a token, and any other status is a refusal with
that status. -/
theorem authenticate_decides {σ : Type} (k : Keycloak) (send : Http.Transport σ)
    (credentials : Credentials) (s : σ) (turns : List Http.Turn) :
    let answer := (send (k.tokenRequest credentials) s).value
    let plain := k.authenticate send credentials s
    let recorded := k.authenticate send.recorded credentials (s, turns)
    (recorded.value = plain.value ∧
        recorded.state = (plain.state, turns ++ [⟨k.tokenRequest credentials, answer⟩])) ∧
      (∀ token seconds, plain.value = .ok ⟨⟨token⟩, seconds⟩ ↔
        answer.status = 200 ∧ token ≠ "" ∧ GrantedBy answer.body token seconds) ∧
      (plain.value = .error .emptyToken ↔
        answer.status = 200 ∧ ∀ token seconds, GrantedBy answer.body token seconds → token = "") ∧
      (answer.status ≠ 200 → plain.value
        = .error (.authenticationFailed answer.status (answer.preview refusalPreview))) := by
  intro answer plain recorded
  refine ⟨⟨?_, ?_⟩, fun token seconds => k.authenticate_eq_ok_iff send credentials s,
    k.authenticate_eq_empty_iff send credentials s, fun hstatus => ?_⟩
  · exact (k.authenticate_agrees send.recorded_agrees credentials (s, turns) s rfl).1
  · have hplain := k.authenticate_state send credentials s
    have hrecorded := k.authenticate_state send.recorded credentials (s, turns)
    rw [hrecorded, hplain]
    rfl
  · exact congrArg Act.Done.value (k.authenticate_of_refused send credentials s hstatus)

/-- A Keycloak at the root of a host. -/
def plainKeycloak : Keycloak where
  base := ⟨"https".toList, some ⟨[], none, .name "kc.example".toList, none⟩, ['/'], none, none⟩
  realm := "dev"

/-- An answer with a token whose seconds are text. -/
def spelledSeconds : Http.Response :=
  ⟨200, [], Utf8.encode "\x7b\"access_token\":\"tok\",\"expires_in\":\"60\"\x7d".toList⟩

/-- An answer with a token in an array. -/
def listedToken : Http.Response :=
  ⟨200, [], Utf8.encode "[\"tok\"]".toList⟩

/-- The seconds of a grant are not only for information: an object with exactly one token that is
not empty need not open a session.  And other bodies may open one. -/
theorem not_authenticate_informative :
    (¬ ∀ (k : Keycloak) (credentials : Credentials) (answer : Http.Response)
        (members : List (Option String × Json)) (token : String), answer.status = 200 →
        Json.parse? answer.body = some (.object members) →
        valuesNamed "access_token" members = [Json.text token] → token ≠ "" →
        ∃ seconds, (k.authenticate Http.Script.send credentials (.ofAnswers [answer])).value
          = .ok ⟨⟨token⟩, seconds⟩) ∧
      ¬ ∀ (k : Keycloak) (credentials : Credentials) (answer : Http.Response), answer.status = 200 →
        (∀ members token, Json.parse? answer.body = some (.object members) →
          valuesNamed "access_token" members = [Json.text token] → token = "") →
        (k.authenticate Http.Script.send credentials (.ofAnswers [answer])).value
          = .error .emptyToken := by
  have hobject : Json.parse? spelledSeconds.body = some (.object
      [(some "access_token", Json.text "tok"), (some "expires_in", Json.text "60")]) :=
    Json.parse?_of_written (by decide) (.object (by simp) (by simp [Json.Textual.text]))
  have harray : Json.parse? listedToken.body = some (.array [Json.text "tok"]) :=
    Json.parse?_of_written (by decide) (.array (by simp [Json.Textual.text]))
  constructor
  · intro hclaim
    obtain ⟨seconds, hok⟩ := hclaim plainKeycloak (.resourceOwner "admin" ⟨"pw"⟩) spelledSeconds _
      "tok" rfl hobject rfl (by decide)
    obtain ⟨-, -, json, hjson, hgrants⟩ := (authenticate_eq_ok_iff _ _ _ _).mp hok
    obtain rfl : _ = json := Option.some.inj (hobject.symm.trans hjson)
    cases hgrants with
    | @object _ _ value _ _ _ hvalue hending =>
      obtain rfl : value = some (Json.text "60") := by
        cases value with
        | none => cases hvalue
        | some value => exact congrArg some (List.cons.inj hvalue).1.symm
      cases hending
  · intro hclaim
    have hnone : ∀ (members : List (Option String × Json)) (token : String),
        Json.parse? listedToken.body = some (.object members) →
        valuesNamed "access_token" members = [Json.text token] → token = "" := by
      intro members token hjson
      rw [harray] at hjson
      cases hjson
    have hempty := hclaim plainKeycloak (.resourceOwner "admin" ⟨"pw"⟩) listedToken rfl hnone
    have hgrant : GrantedBy listedToken.body "tok" none :=
      ⟨_, harray, @Grants.array "tok" none none .missing⟩
    exact absurd (((authenticate_eq_empty_iff _ _ _ _).mp hempty).2 "tok" none hgrant) (by decide)

end Keycloak

end Onboarding
