import Onboarding.Proofs.Http.Redirection
import Onboarding.Sandbox.Server
import Onboarding.Url.Basic

/-!
# What a server in memory was asked

The requests that a server received between two of its states, each with the answer that it gave.

* `Reached`: the states that a server can come to.  It takes one prepared answer for each request.
* `Answered`: a request that came between two states, by its number, with its answer.
* `transport_counted`: a PUT with an answer was received, and its status is the one that the client
  gives unless it is a redirection.  Then that status comes from a GET.
-/

namespace Onboarding

namespace Sandbox

namespace Server

open Http (Exchange RawResponse Request)
open Http.Client (Followed isRedirect keepsMethod first? answerOf)

/-! ## States -/

/-- A later state: some requests more, and as many answers less. -/
def Reached (before after : Server) : Prop :=
  after.authority = before.authority ∧
    ∃ requests, after.received = before.received ++ requests ∧
      after.answers = before.answers.drop requests.length

theorem Reached.refl (s : Server) : Reached s s :=
  ⟨rfl, [], (List.append_nil _).symm, rfl⟩

theorem Reached.trans (s t u : Server) (h : Reached s t) (h' : Reached t u) : Reached s u := by
  obtain ⟨hplace, requests, hreceived, hanswers⟩ := h
  obtain ⟨hplace', later, hreceived', hanswers'⟩ := h'
  refine ⟨hplace'.trans hplace, requests ++ later, ?_, ?_⟩
  · rw [hreceived', hreceived, List.append_assoc]
  · rw [hanswers', hanswers, List.drop_drop, List.length_append]

theorem wire_reached (e : Exchange) (s : Server) : Reached s (wire e s).2 := by
  rw [wire]
  split
  · exact Reached.refl s
  · exact ⟨rfl, [e], rfl, (List.drop_one).symm⟩

theorem transport_reached (r : Request) : Act.Advances Reached (transport r) :=
  Http.Client.transport_advances Reached.refl Reached.trans wire_reached r

/-! ## Answers -/

/-- Between two states the request of number `n` was `e`, and `raw` was the answer to it. -/
def Answered (before after : Server) (n : Nat) (e : Exchange) (raw : RawResponse) : Prop :=
  after.received[before.received.length + n]? = some e ∧ before.answers[n]? = some (some raw)

theorem Answered.until {s t u : Server} {n : Nat} {e : Exchange} {raw : RawResponse}
    (h : Answered s t n e raw) (h' : Reached t u) : Answered s u n e raw := by
  obtain ⟨hrequest, hanswer⟩ := h
  obtain ⟨_, later, hreceived, _⟩ := h'
  refine ⟨?_, hanswer⟩
  have hlt := (List.getElem?_eq_some_iff.mp hrequest).1
  rw [hreceived, List.getElem?_append_left hlt, hrequest]

theorem Answered.since {s t u : Server} {n : Nat} {e : Exchange} {raw : RawResponse}
    (h : Reached s t) (h' : Answered t u n e raw) :
    ∃ m, t.received.length = s.received.length + m ∧ Answered s u (m + n) e raw := by
  obtain ⟨_, requests, hreceived, hanswers⟩ := h
  obtain ⟨hrequest, hanswer⟩ := h'
  have hlength : t.received.length = s.received.length + requests.length := by
    rw [hreceived, List.length_append]
  refine ⟨requests.length, hlength, ?_, ?_⟩
  · rw [← Nat.add_assoc, ← hlength, hrequest]
  · rw [← hanswer, hanswers, List.getElem?_drop]

theorem answered_of_wire {e : Exchange} {raw : RawResponse} {s t : Server}
    (h : wire e s = (.ok raw, t)) :
    t.received.length = s.received.length + 1 ∧ Answered s t 0 e raw := by
  rw [wire] at h
  split at h
  · cases h
  · obtain ⟨hanswer, rfl⟩ := Prod.mk.inj h
    refine ⟨List.length_append, ?_, ?_⟩
    · exact List.getElem?_concat_length
    · rcases hanswers : s.answers with _ | ⟨_ | answer, rest⟩
      · simp [hanswers] at hanswer
      · simp [hanswers] at hanswer
      · simpa [hanswers] using hanswer

theorem reached_of_wire {e : Exchange} {answer : Except String RawResponse} {s t : Server}
    (h : wire e s = (answer, t)) : Reached s t := by
  have hone := wire_reached e s
  rwa [h] at hone

theorem reached_of_followed {n : Nat} {e last : Exchange} {raw : RawResponse} {s t : Server}
    (h : Followed wire n e s last raw t) : Reached s t := by
  induction h with
  | here answered _ _ => exact reached_of_wire answered
  | onward answered _ _ _ ih => exact (reached_of_wire answered).trans _ _ _ ih

/-- The last exchange of a chain was received after as many others as there were redirections. -/
theorem answered_of_followed {n : Nat} {e last : Exchange} {raw : RawResponse} {s t : Server}
    (h : Followed wire n e s last raw t) : Answered s t n last raw := by
  induction h with
  | here answered _ _ => exact (answered_of_wire answered).2
  | onward answered _ _ _ ih =>
    obtain ⟨hlength, _⟩ := answered_of_wire answered
    obtain ⟨m, hm, hlast⟩ := ih.since (reached_of_wire answered)
    obtain rfl : m = 1 := by omega
    rwa [Nat.add_comm] at hlast

/-! ## Puts -/

/-- A PUT of a body to a URL, as it is received. -/
def IsPut (url : Url) (body : Bytes) (e : Exchange) : Prop :=
  e.method = "PUT" ∧ Http.Address.ofText? url.text.toList = some e.address ∧ e.body = some body

/-- The PUT was received, and the answer to it was good. -/
def PutAnswered (before after : Server) (url : Url) (body : Bytes) (good : Nat → Prop) : Prop :=
  ∃ n e raw, Answered before after n e raw ∧ IsPut url body e ∧ good raw.status

/-- The PUT was received.  The answer to it was good, or a redirection that does not keep the
method; a later GET without body was then the request with the good answer. -/
def PutCounted (before after : Server) (url : Url) (body : Bytes) (good : Nat → Prop) : Prop :=
  ∃ n e raw, Answered before after n e raw ∧ IsPut url body e ∧
    (good raw.status ↔ isRedirect raw.status = false) ∧
    (isRedirect raw.status = true → keepsMethod raw.status = false ∧
      ∃ m last final, n < m ∧ Answered before after m last final ∧
        last.method = "GET" ∧ last.body = none ∧ good final.status)

/-- No PUT between two states was answered with a redirection. -/
def NoPutRedirected (before after : Server) : Prop :=
  ∀ n e raw, Answered before after n e raw → e.method = "PUT" → isRedirect raw.status = false

/-- A PUT that counted was answered with a good status when no PUT was redirected. -/
theorem PutCounted.answered {s t : Server} {url : Url} {body : Bytes} {good : Nat → Prop}
    (h : PutCounted s t url body good) (hstay : NoPutRedirected s t) :
    PutAnswered s t url body good := by
  obtain ⟨n, e, raw, hanswered, hput, hgood, _⟩ := h
  exact ⟨n, e, raw, hanswered, hput, hgood.mpr (hstay n e raw hanswered hput.1)⟩

theorem PutCounted.until {s t u : Server} {url : Url} {body : Bytes} {good : Nat → Prop}
    (h : PutCounted s t url body good) (h' : Reached t u) : PutCounted s u url body good := by
  obtain ⟨n, e, raw, hanswered, hput, hgood, hredirect⟩ := h
  refine ⟨n, e, raw, hanswered.until h', hput, hgood, fun h => ?_⟩
  obtain ⟨hkeeps, m, last, final, hlater, hlast, hget, hbody, hfinal⟩ := hredirect h
  exact ⟨hkeeps, m, last, final, hlater, hlast.until h', hget, hbody, hfinal⟩

theorem PutCounted.since {s t u : Server} {url : Url} {body : Bytes} {good : Nat → Prop}
    (h : Reached s t) (h' : PutCounted t u url body good) : PutCounted s u url body good := by
  obtain ⟨n, e, raw, hanswered, hput, hgood, hredirect⟩ := h'
  obtain ⟨k, hk, hfirst⟩ := hanswered.since h
  refine ⟨k + n, e, raw, hfirst, hput, hgood, fun hr => ?_⟩
  obtain ⟨hkeeps, m, last, final, hlater, hlast, hget, hbody, hfinal⟩ := hredirect hr
  obtain ⟨l, hl, hlast⟩ := hlast.since h
  obtain rfl : l = k := by omega
  exact ⟨hkeeps, l + m, last, final, by omega, hlast, hget, hbody, hfinal⟩

theorem isPut_of_first {url : Url} {headers : List (String × String)} {body : Bytes} {e : Exchange}
    (h : first? ⟨"PUT", url.text, headers, some body⟩ = .ok e) : IsPut url body e := by
  rw [first?] at h
  split at h
  · cases h
  · cases h
  · rename_i address _ haddress
    cases h
    exact ⟨rfl, haddress, rfl⟩

/-- A PUT whose answer is good to the client was received, and counted as said above. -/
theorem transport_counted {url : Url} {headers : List (String × String)} {body : Bytes}
    {good : Nat → Prop} (hgood : ∀ status, good status → status ≠ 0 ∧ isRedirect status = false)
    {s : Server} (h : good (transport ⟨"PUT", url.text, headers, some body⟩ s).value.status) :
    PutCounted s (transport ⟨"PUT", url.text, headers, some body⟩ s).state url body good := by
  obtain ⟨e, n, last, raw, hfirst, _, hfollowed, hvalue⟩ :=
    Http.Client.transport_of_answered (hgood _ h).1
  have hput := isPut_of_first hfirst
  have hstatus : good raw.status := by
    have hsame := congrArg Http.Response.status hvalue
    rwa [show raw.status = _ from hsame.symm]
  cases hfollowed with
  | here answered final _ =>
    have hanswered := (answered_of_wire answered).2
    refine ⟨0, e, raw, hanswered, hput, iff_of_true hstatus final, fun hredirect => ?_⟩
    rw [final] at hredirect
    cases hredirect
  | @onward n _ _ _ first _ _ _ _ answered redirect leads rest =>
    obtain ⟨hkeeps, hget, hbody⟩ := Http.Client.next?_of_put hput.1 leads
    obtain ⟨hlastGet, hlastBody⟩ := rest.of_get hget hbody
    have hfirstAnswered := (answered_of_wire answered).2.until (reached_of_followed rest)
    have hlastAnswered := answered_of_followed (.onward answered redirect leads rest)
    have hnot : ¬ good first.status := by
      intro hfirst
      rw [(hgood _ hfirst).2] at redirect
      cases redirect
    have hredirect : ¬ isRedirect first.status = false := by
      rw [redirect]
      exact Bool.noConfusion
    exact ⟨0, e, first, hfirstAnswered, hput, iff_of_false hnot hredirect, fun _ =>
      ⟨hkeeps, n + 1, last, raw, Nat.succ_pos n, hlastAnswered, hlastGet, hlastBody, hstatus⟩⟩

end Server

end Sandbox

end Onboarding
