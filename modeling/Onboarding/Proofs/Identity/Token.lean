import Onboarding.Identity.Keycloak

/-!
# The answer to a token request

What `Keycloak.authenticate` makes of the one answer that it gets: a status other than 200 is a
refusal, and an answer with status 200 either holds a usable token or does not.
-/

namespace Onboarding

namespace Keycloak

/-- The token in the body of a grant, when it can be read and is not empty. -/
def usableToken? (body : Bytes) : Option String :=
  ((Json.parse? body).bind grant?).bind fun grant => grant.1.filter (!·.isEmpty)

section

variable {σ : Type} (k : Keycloak) (send : Http.Transport σ) (credentials : Credentials) (s : σ)

/-- A status other than 200 is a refusal, with the status and the start of the body. -/
theorem authenticate_of_refused
    (h : (send (k.tokenRequest credentials) s).value.status ≠ 200) :
    k.authenticate send credentials s =
      let answer := send (k.tokenRequest credentials) s
      ⟨.error (.authenticationFailed answer.value.status (answer.value.preview refusalPreview)),
        answer.reports, answer.state⟩ := by
  simp [authenticate, h]

/-- Without a usable token there is no session. -/
theorem authenticate_of_unusable
    (h : (send (k.tokenRequest credentials) s).value.status = 200)
    (htoken : usableToken? (send (k.tokenRequest credentials) s).value.body = none) :
    ∃ notices, k.authenticate send credentials s =
      ⟨.error .emptyToken, (send (k.tokenRequest credentials) s).reports ++ notices,
        (send (k.tokenRequest credentials) s).state⟩ := by
  rcases hgrant : (Json.parse? (send (k.tokenRequest credentials) s).value.body).bind grant?
    with _ | ⟨token, expiresIn⟩
  · refine ⟨[.tokenUnreadable (send (k.tokenRequest credentials) s).value.body], ?_⟩
    simp [authenticate, h, hgrant]
  · have hempty : token.filter (!·.isEmpty) = none := by
      simpa [usableToken?, hgrant] using htoken
    refine ⟨[], ?_⟩
    simp only [authenticate, Act.bind_apply, h, ne_eq, not_true_eq_false, if_false, hgrant, hempty]
    rfl

/-- A token that is not empty opens a session, with the seconds that were granted. -/
theorem authenticate_of_grant {token : String} {seconds : Option Nat}
    (h : (send (k.tokenRequest credentials) s).value.status = 200)
    (hgrant : (Json.parse? (send (k.tokenRequest credentials) s).value.body).bind grant?
      = some (some token, seconds))
    (hne : token ≠ "") :
    k.authenticate send credentials s =
      ⟨.ok ⟨⟨token⟩, seconds⟩, (send (k.tokenRequest credentials) s).reports,
        (send (k.tokenRequest credentials) s).state⟩ := by
  have hkept : (some token).filter (!·.isEmpty) = some token := by
    simpa [Option.filter] using hne
  simp only [authenticate, Act.bind_apply, h, ne_eq, not_true_eq_false, if_false, hgrant, hkept,
    Act.pure_apply, List.append_nil]

/-- A usable token opens a session. -/
theorem authenticate_of_usable {token : String}
    (h : (send (k.tokenRequest credentials) s).value.status = 200)
    (htoken : usableToken? (send (k.tokenRequest credentials) s).value.body = some token) :
    ∃ expiresIn, k.authenticate send credentials s =
      ⟨.ok ⟨⟨token⟩, expiresIn⟩, (send (k.tokenRequest credentials) s).reports,
        (send (k.tokenRequest credentials) s).state⟩ := by
  obtain ⟨⟨granted, seconds⟩, hgrant, hkept⟩ := Option.bind_eq_some_iff.mp htoken
  obtain ⟨rfl, hne⟩ := Option.filter_eq_some_iff.mp hkept
  exact ⟨seconds, authenticate_of_grant k send credentials s h hgrant (by simpa using hne)⟩

end

end Keycloak

end Onboarding
