import Onboarding.Http.Message
import Onboarding.Proofs.Acts

/-!
# Requests with their answers

What went over a transport, in order.

* `Sends`: requests with their answers lead from one state to another, and nothing else happens.
* `recorded`: the transport that writes each request down together with the answer to it, and does
  otherwise what the plain transport does.  What a client asked is then read off the list
  (`Sends.recorded`); `Turn.Adds` says of which kind all of it was.
-/

namespace Onboarding

namespace Http

variable {σ : Type}

/-- A request and the answer to it. -/
structure Turn where
  request : Request
  answer : Response
  deriving DecidableEq

/-! ## Sequences -/

/-- From one state to another by requests alone.  Each turn is a request with the answer that the
transport gives to it in the state that the turn before it left. -/
inductive Sends (send : Transport σ) : σ → List Turn → σ → Prop where
  | nil (s : σ) : Sends send s [] s
  | cons {request : Request} {turns : List Turn} {s t : σ}
      (rest : Sends send (send request s).state turns t) :
      Sends send s (⟨request, (send request s).value⟩ :: turns) t

theorem Sends.one (send : Transport σ) (request : Request) (s : σ) :
    Sends send s [⟨request, (send request s).value⟩] (send request s).state :=
  .cons (.nil _)

theorem Sends.append {send : Transport σ} {turns more : List Turn} {s t u : σ}
    (h : Sends send s turns t) (h' : Sends send t more u) : Sends send s (turns ++ more) u := by
  induction h with
  | nil => exact h'
  | cons _ ih => exact .cons (ih h')

/-! ## Lists -/

/-- A state with a list of turns stands for the state without it. -/
def Turn.Drops (s : σ × List Turn) (t : σ) : Prop :=
  s.1 = t

/-- The same transport, with a list of the turns. -/
def Transport.recorded (send : Transport σ) : Transport (σ × List Turn) :=
  fun request s =>
    let r := send request s.1
    ⟨r.value, r.reports, (r.state, s.2 ++ [⟨request, r.value⟩])⟩

/-- What is sent over a recorded transport is what is written down. -/
theorem Sends.recorded {send : Transport σ} {turns : List Turn} {s t : σ × List Turn}
    (h : Sends send.recorded s turns t) : t.2 = s.2 ++ turns := by
  induction h with
  | nil => exact (List.append_nil _).symm
  | cons _ ih =>
    rw [ih]
    exact List.append_assoc _ _ _

/-- More turns than before, all of them with requests of one kind. -/
def Turn.Adds (P : Request → Prop) (s t : σ × List Turn) : Prop :=
  ∃ turns, t.2 = s.2 ++ turns ∧ ∀ turn ∈ turns, P turn.request

theorem Turn.Adds.refl (P : Request → Prop) (s : σ × List Turn) : Adds P s s :=
  ⟨[], (List.append_nil _).symm, fun _ hturn => nomatch hturn⟩

theorem Turn.Adds.trans {P : Request → Prop} (s t u : σ × List Turn) (h : Adds P s t)
    (h' : Adds P t u) : Adds P s u := by
  obtain ⟨turns, hturns, hall⟩ := h
  obtain ⟨more, hmore, hall'⟩ := h'
  refine ⟨turns ++ more, ?_, ?_⟩
  · rw [hmore, hturns, List.append_assoc]
  · intro turn hturn
    rcases List.mem_append.mp hturn with hturn | hturn
    · exact hall turn hturn
    · exact hall' turn hturn

theorem Transport.recorded_agrees (send : Transport σ) (r : Request) :
    Act.Agrees Turn.Drops (send.recorded r) (send r) := by
  rintro s t rfl
  exact ⟨rfl, rfl, rfl⟩

theorem Transport.recorded_adds {P : Request → Prop} (send : Transport σ) {r : Request} (h : P r) :
    Act.Advances (Turn.Adds P) (send.recorded r) := by
  intro s
  refine ⟨[⟨r, (send r s.1).value⟩], rfl, fun turn hturn => ?_⟩
  obtain rfl := List.mem_singleton.mp hturn
  exact h

end Http

end Onboarding
