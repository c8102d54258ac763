import Onboarding.Http.Client
import Onboarding.Proofs.Acts

/-!
# Chains of redirections

What the web client does between a request and the answer that it gives.

* `Followed`: a chain of exchanges, each one that the answer before it asks for.  The client gives
  the last answer of a chain that is short enough, and no other (`exchange_eq_ok_iff`).
* `next?_of_put`, `Followed.of_get`: a redirected PUT goes on as a GET without body, and so
  does everything after it.
* `transport_advances`: what every exchange does to the state, every request does.
-/

namespace Onboarding

namespace Http

namespace Client

variable {σ : Type} {wire : Wire σ}

/-! ## Chains -/

/-- The answer to one exchange as the client gives it. -/
def answerOf (raw : RawResponse) : Response :=
  ⟨raw.status, tidy raw.headers, raw.body⟩

/-- The exchange that an answer asks for. -/
def next? (e : Exchange) (raw : RawResponse) : Option Exchange :=
  redirected? e raw.status ((tidy raw.headers).lookup "location")

/-- From an exchange and a state, that many redirections lead to a last exchange with an answer
that is none and whose body can be read, and a state. -/
inductive Followed (wire : Wire σ) : Nat → Exchange → σ → Exchange → RawResponse → σ → Prop
  | here {e : Exchange} {raw : RawResponse} {s t : σ} (answered : wire e s = (.ok raw, t))
      (final : isRedirect raw.status = false) (fits : raw.body.length ≤ bodyLimit) :
      Followed wire 0 e s e raw t
  | onward {n : Nat} {e next last : Exchange} {raw final : RawResponse} {s t u : σ}
      (answered : wire e s = (.ok raw, u)) (redirect : isRedirect raw.status = true)
      (leads : next? e raw = some next) (rest : Followed wire n next u last final t) :
      Followed wire (n + 1) e s last final t

/-! ## The client by cases -/

section

variable {left : Nat} {e : Exchange} {s t : σ} {raw : RawResponse}

theorem exchange_of_unanswered {text : String} (h : wire e s = (.error text, t)) :
    exchange wire left e s = (.error (.network text), t) := by
  rw [exchange, h]

theorem exchange_of_final (h : wire e s = (.ok raw, t)) (hfinal : isRedirect raw.status = false)
    (hfits : raw.body.length ≤ bodyLimit) :
    exchange wire left e s = (.ok (answerOf raw), t) := by
  simp [exchange, h, hfinal, answerOf, Nat.not_lt.mpr hfits]

/-- A body that is too long is not taken. -/
theorem exchange_of_oversized (h : wire e s = (.ok raw, t))
    (hfinal : isRedirect raw.status = false) (hlong : bodyLimit < raw.body.length) :
    exchange wire left e s = (.error .oversized, t) := by
  simp [exchange, h, hfinal, hlong]

theorem exchange_of_redirect {next : Exchange} (h : wire e s = (.ok raw, t))
    (hredirect : isRedirect raw.status = true) (hnext : next? e raw = some next) :
    exchange wire (left + 1) e s = exchange wire left next t := by
  rw [next?] at hnext
  rw [exchange, h]
  simp [hredirect, hnext]

/-- A redirection that is not followed. -/
theorem exchange_of_dropped (h : wire e s = (.ok raw, t))
    (hredirect : isRedirect raw.status = true) (hdropped : left = 0 ∨ next? e raw = none) :
    ∃ fault, exchange wire left e s = (.error fault, t) := by
  rw [exchange, h]
  cases left with
  | zero => exact ⟨.tooManyRedirections, by simp [hredirect]⟩
  | succ left =>
    have hnext : next? e raw = none := hdropped.resolve_left (Nat.succ_ne_zero left)
    rw [next?] at hnext
    exact ⟨.misdirected raw.status ((tidy raw.headers).lookup "location"), by
      simp [hredirect, hnext]⟩

end

/-- The first exchange is the last, without an answer or with one, or a redirection follows. -/
theorem exchange_cases (wire : Wire σ) (left : Nat) (e : Exchange) (s : σ) :
    (∃ fault, exchange wire left e s = (.error fault, (wire e s).2)) ∨
      (∃ raw t, wire e s = (.ok raw, t) ∧ isRedirect raw.status = false ∧
        raw.body.length ≤ bodyLimit ∧ exchange wire left e s = (.ok (answerOf raw), t)) ∨
      ∃ raw t next m, wire e s = (.ok raw, t) ∧ isRedirect raw.status = true ∧
        next? e raw = some next ∧ left = m + 1 ∧
        exchange wire left e s = exchange wire m next t := by
  rcases hwire : wire e s with ⟨text | raw, t⟩
  · exact Or.inl ⟨_, exchange_of_unanswered hwire⟩
  cases hredirect : isRedirect raw.status with
  | false =>
    by_cases hfits : raw.body.length ≤ bodyLimit
    · exact Or.inr (Or.inl
        ⟨raw, t, rfl, hredirect, hfits, exchange_of_final hwire hredirect hfits⟩)
    · exact Or.inl ⟨_, exchange_of_oversized hwire hredirect (Nat.lt_of_not_le hfits)⟩
  | true =>
    cases left with
    | zero => exact Or.inl (exchange_of_dropped hwire hredirect (Or.inl rfl))
    | succ m =>
      cases hnext : next? e raw with
      | none => exact Or.inl (exchange_of_dropped hwire hredirect (Or.inr hnext))
      | some next =>
        exact Or.inr (Or.inr ⟨raw, t, next, m, rfl, hredirect, hnext, rfl,
          exchange_of_redirect hwire hredirect hnext⟩)

/-! ## The client and its chains -/

theorem followed_of_exchange {left : Nat} {e : Exchange} {s t : σ} {r : Response}
    (h : exchange wire left e s = (.ok r, t)) :
    ∃ n last raw, n ≤ left ∧ Followed wire n e s last raw t ∧ r = answerOf raw := by
  induction left using Nat.strongRecOn generalizing e s with
  | ind left ih =>
    rcases exchange_cases wire left e s with ⟨fault, hnone⟩ |
      ⟨raw, u, hwire, hfinal, hfits, hdone⟩ |
      ⟨raw, u, next, m, hwire, hredirect, hnext, rfl, hgo⟩
    · rw [hnone] at h
      cases h
    · rw [hdone] at h
      cases h
      exact ⟨0, e, raw, Nat.zero_le _, .here hwire hfinal hfits, rfl⟩
    · rw [hgo] at h
      obtain ⟨n, last, final, hn, hrest, hr⟩ := ih m (Nat.lt_succ_self m) h
      exact ⟨n + 1, last, final, Nat.succ_le_succ hn, .onward hwire hredirect hnext hrest, hr⟩

theorem Followed.exchange {n left : Nat} {e last : Exchange} {s t : σ} {raw : RawResponse}
    (h : Followed wire n e s last raw t) (hn : n ≤ left) :
    exchange wire left e s = (.ok (answerOf raw), t) := by
  induction h generalizing left with
  | here answered final fits => exact exchange_of_final answered final fits
  | onward answered redirect leads _ ih =>
    obtain ⟨left, rfl⟩ : ∃ m, left = m + 1 := ⟨left - 1, by omega⟩
    rw [exchange_of_redirect answered redirect leads]
    exact ih (by omega)

/-- The client gives the last answer of a chain of at most `left` redirections, and no other. -/
theorem exchange_eq_ok_iff {left : Nat} {e : Exchange} {s t : σ} {r : Response} :
    exchange wire left e s = (.ok r, t) ↔
      ∃ n last raw, n ≤ left ∧ Followed wire n e s last raw t ∧ r = answerOf raw := by
  constructor
  · exact followed_of_exchange
  · rintro ⟨n, last, raw, hn, hfollowed, rfl⟩
    exact hfollowed.exchange hn

/-! ## Methods -/

/-- A redirected PUT goes on as a GET without body. -/
theorem next?_of_put {e next : Exchange} {raw : RawResponse} (hput : e.method = "PUT")
    (h : next? e raw = some next) :
    keepsMethod raw.status = false ∧ next.method = "GET" ∧ next.body = none := by
  have hhas : hasBody "PUT" = true := rfl
  simp only [next?, redirected?, Option.bind_eq_bind, Option.bind_eq_some_iff, hput] at h
  obtain ⟨_, _, address, _, h⟩ := h
  cases hkeeps : keepsMethod raw.status with
  | true => simp [hkeeps, hhas] at h
  | false =>
    obtain rfl : _ = next := by simpa [hkeeps] using h
    exact ⟨rfl, rfl, rfl⟩

/-- A redirected GET without body stays one. -/
theorem next?_of_get {e next : Exchange} {raw : RawResponse} (hget : e.method = "GET")
    (hbody : e.body = none) (h : next? e raw = some next) :
    next.method = "GET" ∧ next.body = none := by
  have hhas : hasBody "GET" = false := rfl
  simp only [next?, redirected?, Option.bind_eq_bind, Option.bind_eq_some_iff, hget, hbody] at h
  obtain ⟨_, _, address, _, h⟩ := h
  cases hkeeps : keepsMethod raw.status with
  | true =>
    obtain rfl : _ = next := by simpa [hkeeps, hhas] using h
    exact ⟨rfl, rfl⟩
  | false =>
    obtain rfl : _ = next := by simpa [hkeeps] using h
    exact ⟨rfl, rfl⟩

theorem Followed.of_get {n : Nat} {e last : Exchange} {s t : σ} {raw : RawResponse}
    (h : Followed wire n e s last raw t) (hget : e.method = "GET") (hbody : e.body = none) :
    last.method = "GET" ∧ last.body = none := by
  induction h with
  | here => exact ⟨hget, hbody⟩
  | onward answered redirect leads _ ih =>
    obtain ⟨hget, hbody⟩ := next?_of_get hget hbody leads
    exact ih hget hbody

/-! ## The transport -/

/-- A request has an answer with a status when its chain has one. -/
theorem transport_of_answered {r : Request} {s : σ}
    (h : (transport wire r s).value.status ≠ 0) :
    ∃ e n last raw, first? r = .ok e ∧ n ≤ redirectLimit ∧
      Followed wire n e s last raw (transport wire r s).state ∧
      (transport wire r s).value = answerOf raw := by
  cases hfirst : first? r with
  | error fault => simp [transport, hfirst, Response.unreachable] at h
  | ok e =>
    rcases hexchange : exchange wire redirectLimit e s with ⟨fault | response, t⟩
    · simp [transport, hfirst, hexchange, Response.unreachable] at h
    · obtain ⟨n, last, raw, hn, hfollowed, rfl⟩ := followed_of_exchange hexchange
      have hr : transport wire r s = ⟨answerOf raw, [], t⟩ := by
        simp [transport, hfirst, hexchange]
      rw [hr]
      exact ⟨e, n, last, raw, rfl, hn, hfollowed, rfl⟩

section

variable {P : σ → σ → Prop} (hrefl : ∀ s, P s s) (htrans : ∀ s t u, P s t → P t u → P s u)
  (hwire : ∀ e s, P s (wire e s).2)

include htrans hwire

theorem exchange_advances (left : Nat) (e : Exchange) (s : σ) :
    P s (exchange wire left e s).2 := by
  induction left using Nat.strongRecOn generalizing e s with
  | ind left ih =>
    have hone := hwire e s
    rcases exchange_cases wire left e s with ⟨_, hnone⟩ | ⟨raw, u, hcase, _, _, hdone⟩ |
      ⟨raw, u, next, m, hcase, _, _, rfl, hgo⟩
    · rwa [hnone]
    · rw [hdone]
      rwa [hcase] at hone
    · rw [hgo]
      rw [hcase] at hone
      exact htrans _ _ _ hone (ih m (Nat.lt_succ_self m) next u)

include hrefl

/-- What every exchange does to the state, every request does. -/
theorem transport_advances (r : Request) : Act.Advances P (transport wire r) := by
  intro s
  cases hfirst : first? r with
  | error fault => simpa [transport, hfirst] using hrefl s
  | ok e =>
    have hexchange := exchange_advances htrans hwire redirectLimit e s
    rcases hcase : exchange wire redirectLimit e s with ⟨fault | response, t⟩
    · rw [hcase] at hexchange
      simpa [transport, hfirst, hcase] using hexchange
    · rw [hcase] at hexchange
      simpa [transport, hfirst, hcase] using hexchange

end

end Client

end Http

end Onboarding
