import Onboarding.Proofs.Identity.Grant
import Onboarding.Proofs.Text.Form

/-!
# What a token is asked with

The form in the request for a token holds the values as they were given, and nothing of their text
is taken for a part of the form.

* The choice.  `Asks` says with which form four optional values ask, and `asks_iff` that this is the
  form of the credentials that are selected among them.
* The request.  `authenticate_asks` reads the form from the body of the one request that is sent.
-/

namespace Onboarding

namespace Credentials

/-! ## The choice -/

/-- A value that is there and holds more than blanks. -/
def Given (value : Option String) (s : String) : Prop :=
  value = some s ∧ ∃ c ∈ s.toList, Text.isBlank c = false

/-- The form with which four values ask for a token: in the name of a user when both values of a
user are given, and else in the name of a client. -/
inductive Asks (adminUsername adminPassword clientId clientSecret : Option String) :
    List (String × String) → Prop where
  | asUser {username password : String} (hname : Given adminUsername username)
      (hpassword : Given adminPassword password) :
      Asks adminUsername adminPassword clientId clientSecret
        [("grant_type", "password"), ("client_id", "admin-cli"), ("username", username),
          ("password", password)]
  | asClient {id secret : String}
      (hnone : ∀ username password, ¬ (Given adminUsername username ∧ Given adminPassword password))
      (hid : Given clientId id) (hsecret : Given clientSecret secret) :
      Asks adminUsername adminPassword clientId clientSecret
        [("grant_type", "client_credentials"), ("client_id", id), ("client_secret", secret)]

theorem present?_eq_some_iff {value : Option String} {s : String} :
    present? value = some s ↔ Given value s := by
  rw [present?, Option.filter_eq_some_iff, Given, Text.isBlankText]
  simp

/-- Values ask with the form of the credentials that are selected among them. -/
theorem asks_iff {adminUsername adminPassword clientId clientSecret : Option String}
    {fields : List (String × String)} :
    Asks adminUsername adminPassword clientId clientSecret fields ↔
      ∃ credentials, select adminUsername adminPassword clientId clientSecret = .ok credentials ∧
        credentials.formFields = fields := by
  constructor
  · intro h
    cases h with
    | @asUser username password hname hpassword =>
      rw [← present?_eq_some_iff] at hname hpassword
      exact ⟨.resourceOwner username ⟨password⟩, by rw [select, hname, hpassword], rfl⟩
    | @asClient id secret hnone hid hsecret =>
      rw [← present?_eq_some_iff] at hid hsecret
      refine ⟨.clientCredentials id ⟨secret⟩, ?_, rfl⟩
      rw [select]
      split
      · next hname hpassword =>
        rw [present?_eq_some_iff] at hname hpassword
        exact absurd ⟨hname, hpassword⟩ (hnone _ _)
      · rw [hid, hsecret]
  · rintro ⟨credentials, hselect, rfl⟩
    rw [select] at hselect
    split at hselect
    · next hname hpassword =>
      cases hselect
      exact .asUser (present?_eq_some_iff.mp hname) (present?_eq_some_iff.mp hpassword)
    · next hnone =>
      split at hselect
      · next hid hsecret =>
        cases hselect
        refine .asClient (fun username password h => ?_) (present?_eq_some_iff.mp hid)
          (present?_eq_some_iff.mp hsecret)
        exact hnone _ _ (present?_eq_some_iff.mpr h.1) (present?_eq_some_iff.mpr h.2)
      · cases hselect

end Credentials

namespace Keycloak

open Credentials (Asks select)

/-! ## The request -/

/-- The form in the request for a token, whatever the values hold.  When credentials are selected
among four values, the only request that is sent goes to the address for tokens, and its body is
read as the fields with which these values ask, and no others. -/
theorem authenticate_asks {σ : Type} (k : Keycloak) (send : Http.Transport σ) (s : σ)
    (turns : List Http.Turn)
    {adminUsername adminPassword clientId clientSecret : Option String} {credentials : Credentials}
    (h : select adminUsername adminPassword clientId clientSecret = .ok credentials) :
    ∃ octets answer,
      (k.authenticate send.recorded credentials (s, turns)).state.2
        = turns ++ [⟨⟨"POST", k.tokenUrl.text,
          [("Content-Type", "application/x-www-form-urlencoded")], some octets⟩, answer⟩] ∧
      ∀ fields, Asks adminUsername adminPassword clientId clientSecret fields ↔
        Form.read octets = fields := by
  have hread : Form.read (Utf8.encode (Form.encode credentials.formFields))
      = credentials.formFields := by
    rw [← Form.decode_eq_read, Form.decode_encode]
  refine ⟨Utf8.encode (Form.encode credentials.formFields),
    (send (k.tokenRequest credentials) s).value, ?_, fun fields => ?_⟩
  · rw [k.authenticate_state send.recorded credentials (s, turns)]
    rfl
  · rw [Credentials.asks_iff, hread]
    constructor
    · rintro ⟨selected, hselected, hfields⟩
      rw [h] at hselected
      cases hselected
      exact hfields
    · exact fun hfields => ⟨credentials, h, hfields⟩

theorem authenticate_asks_awkward :
    select (some " a&b=c") (some "p+q%20é&grant_type=none ") (some "service") (some "secret")
        = .ok (.resourceOwner " a&b=c" ⟨"p+q%20é&grant_type=none "⟩) ∧
      ∃ octets answer,
        (plainKeycloak.authenticate Http.Script.send.recorded
            (.resourceOwner " a&b=c" ⟨"p+q%20é&grant_type=none "⟩) (.ofAnswers [], [])).state.2
          = [⟨⟨"POST", "https://kc.example/realms/dev/protocol/openid-connect/token",
            [("Content-Type", "application/x-www-form-urlencoded")], some octets⟩, answer⟩] ∧
        Form.read octets = [("grant_type", "password"), ("client_id", "admin-cli"),
          ("username", " a&b=c"), ("password", "p+q%20é&grant_type=none ")] := by
  have hselect : select (some " a&b=c") (some "p+q%20é&grant_type=none ") (some "service")
      (some "secret") = .ok (.resourceOwner " a&b=c" ⟨"p+q%20é&grant_type=none "⟩) := by
    decide +kernel
  have hurl : plainKeycloak.tokenUrl.text
      = "https://kc.example/realms/dev/protocol/openid-connect/token" := by decide +kernel
  obtain ⟨octets, answer, hsent, hform⟩ :=
    authenticate_asks plainKeycloak Http.Script.send (.ofAnswers []) [] hselect
  rw [hurl] at hsent
  refine ⟨hselect, octets, answer, hsent,
    (hform _).mp (.asUser ⟨rfl, 'a', ?_, rfl⟩ ⟨rfl, 'p', ?_, rfl⟩)⟩
  · simp
  · simp

end Keycloak

end Onboarding
