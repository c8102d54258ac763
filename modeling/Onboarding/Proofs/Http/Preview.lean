import Onboarding.Http.Message
import Onboarding.Proofs.Text.Cut

/-!
# The preview of a body

The preview is cut between octets and read as text, so that the cut may go through a character.  It
never has more characters than there are octets, and of a body that is text it shows whole
characters and one replacement at most.
-/

namespace Onboarding

namespace Http

namespace Response

/-- What a preview shows of a body, whatever the limit is.  It has at most as many characters as the
limit allows and the body has octets.  Of a text it is the longest beginning that fits into the
limit, with one U+FFFD behind it when the limit falls into a character, and with nothing behind it
otherwise. -/
theorem preview_shows (r : Response) (limit : Nat) :
    (r.preview limit).length ≤ min limit r.body.length ∧
      ∀ text, r.body = Utf8.encode text → ∃ front, Utf8.Fitting limit text front ∧
        (Utf8.Severs limit text → r.preview limit = String.ofList (front ++ ['\uFFFD'])) ∧
        (¬ Utf8.Severs limit text → r.preview limit = String.ofList front) := by
  constructor
  · have hlength := Utf8.length_decodeLossy_le (r.body.take limit)
    rw [List.length_take] at hlength
    rwa [preview, Utf8.toStringLossy, String.length_ofList]
  · intro text hbody
    obtain ⟨front, hfitting, hsevered, hwhole⟩ := Utf8.decodeLossy_take_encode limit text
    rw [preview, Utf8.toStringLossy, hbody]
    exact ⟨front, hfitting, fun h => congrArg String.ofList (hsevered h),
      fun h => congrArg String.ofList (hwhole h)⟩

/-- A body with characters of one, two and four octets. -/
def mixedBody : Response :=
  ⟨500, [], Utf8.encode "aé😀b".toList⟩

theorem preview_shows_mixed :
    Utf8.Severs 5 "aé😀b".toList ∧ ¬ Utf8.Severs 7 "aé😀b".toList ∧
      (∃ front, Utf8.Fitting 5 "aé😀b".toList front ∧
        mixedBody.preview 5 = String.ofList (front ++ ['\uFFFD'])) ∧
      (∃ front, Utf8.Fitting 7 "aé😀b".toList front ∧ mixedBody.preview 7 = String.ofList front) ∧
      mixedBody.preview 5 = "aé\uFFFD" ∧ mixedBody.preview 7 = "aé😀" := by
  have hsevers : Utf8.Severs 5 "aé😀b".toList :=
    ⟨['a', 'é'], '😀', ['b'], by decide, by decide, by decide⟩
  have hfront : Utf8.size ['a', 'é', '😀'] ≤ 7 := by decide
  have hnext : ∀ c ∈ ['b'].head?, 7 < Utf8.size (['a', 'é', '😀'] ++ [c]) := by
    rintro _ ⟨⟩
    decide
  have hwhole : ¬ Utf8.Severs 7 "aé😀b".toList := fun h =>
    absurd ((Utf8.severs_iff hfront hnext).mp h).1 (by decide)
  obtain ⟨front, hfitting, hsevered, -⟩ := (preview_shows mixedBody 5).2 _ rfl
  obtain ⟨front', hfitting', -, hkept⟩ := (preview_shows mixedBody 7).2 _ rfl
  exact ⟨hsevers, hwhole, ⟨front, hfitting, hsevered hsevers⟩, ⟨front', hfitting', hkept hwhole⟩,
    by decide +kernel, by decide +kernel⟩

end Response

end Http

end Onboarding
