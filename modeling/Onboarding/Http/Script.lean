import Onboarding.Http.Message

/-!
# Scripted answers

A server that gives prepared answers in order, whatever it is asked, and keeps the requests.
When no answer is left it cannot be reached.
-/

namespace Onboarding

namespace Http

/-- The answers that are left and the requests that came, in order. -/
structure Script where
  answers : List Response
  received : List Request

namespace Script

/-- A server with prepared answers. -/
def ofAnswers (answers : List Response) : Script :=
  ⟨answers, []⟩

/-- The next answer. -/
def send : Transport Script := fun request =>
  Act.ofFunction fun s =>
    (s.answers.headD .unreachable, ⟨s.answers.tail, s.received ++ [request]⟩)

end Script

end Http

end Onboarding
