/-!
# Cutting and joining lists

`pieces` cuts a list at every separator and keeps empty pieces; `joined` puts pieces together
with a separator between them.
-/

namespace Onboarding

namespace Split

/-- The pieces between the elements that satisfy `p`; there is always one more of them. -/
def pieces {α : Type} (p : α → Bool) : List α → List (List α)
  | [] => [[]]
  | x :: rest =>
    if p x then [] :: pieces p rest
    else
      match pieces p rest with
      | piece :: more => (x :: piece) :: more
      | [] => [[x]]

/-- Pieces with a separator between every two. -/
def joined {α : Type} (separator : α) : List (List α) → List α
  | [] => []
  | [piece] => piece
  | piece :: rest => piece ++ separator :: joined separator rest

end Split

end Onboarding
