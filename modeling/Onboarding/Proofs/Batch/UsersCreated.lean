import Onboarding.Http.Script
import Onboarding.Proofs.Batch.Conversation
import Onboarding.Proofs.Batch.OverHttp

/-!
# The count of users

What the count of users that were made stands for when Keycloak is the identity server.  A user is
counted when the request for it led to an id.  That request can be answered with a conflict, because
the user is there already, and a user that was made can be left without an id, so that the count is
not that of the users that Keycloak made.

* One record.  `Talk.sum_countsUser` compares the count with the answer to the request.
* A batch.  `Ways.talks` reads a talk for each record off the turns of a run.
* The assembly.  `run_counts_conflicts` gives the exact count, and `not_run_counts_made` a run with
  a conflict.
-/

namespace Onboarding

open Http (Response Turn)
open Keycloak (Session Talk)

/-! ## One record -/

namespace Keycloak.Talk

/-- Whether the request that makes the user was answered with a status. -/
def answered (talk : Talk) (status : Nat) : Bool :=
  talk.created.any (·.status == status)

theorem turn_of_answered {talk : Talk} {status : Nat} (h : talk.answered status) (k : Keycloak)
    (session : Session) (record : Record) :
    ∃ turn ∈ talk.turns k session record, turn.answer.status = status := by
  cases hcreated : talk.created with
  | none => simp [answered, hcreated] at h
  | some answer =>
    have hstatus : answer.status = status := by simpa [answered, hcreated] using h
    refine ⟨⟨k.postUser session record.username, answer⟩, ?_, hstatus⟩
    simp [turns, Lookup.turns, hcreated]

/-- Whether a user was made and no id was had for it. -/
def madeWithoutId (talk : Talk) : Bool :=
  talk.answered 201 && talk.id?.isNone

/-- Whether the user was there already, and the second search gave its id. -/
def foundOnConflict (talk : Talk) : Bool :=
  talk.answered 409 && talk.id?.isSome

/-- A request for a user leads to an id only when the user was made or is there already. -/
theorem status_of_id {talk : Talk} {answer : Response} {id : String}
    (hcreated : talk.created = some answer) (hid : talk.id? = some id) :
    answer.status = 201 ∨ answer.status = 409 := by
  have hsearch : listedId? talk.search = none := by
    rw [← talk.created_iff, hcreated]
    rfl
  rcases granted_or_open_or_refused answer with ⟨_, hmade, _⟩ | hopen | ⟨hmade, hconflict⟩
  · exact Or.inl hmade
  · rcases hopen with hconflict | ⟨hmade, _⟩
    · exact Or.inr hconflict
    · exact Or.inl hmade
  · have hagain : talk.again = none := by
      have hiff := talk.again_iff
      rw [hcreated] at hiff
      simpa [LeavesIdOpen, hmade, hconflict] using hiff
    simp [Lookup.id?, hsearch, hcreated, hagain, grantedId?, hmade] at hid

/-- A talk counts when its user was made, but for the users without an id; and it counts when the
user of a conflict was found. -/
theorem sum_countsUser (talk : Talk) :
    [talk].countP countsUser + [talk].countP madeWithoutId
      = [talk].countP (·.answered 201) + [talk].countP foundOnConflict := by
  cases hcreated : talk.created with
  | none => simp [countsUser, madeWithoutId, answered, foundOnConflict, hcreated]
  | some answer =>
    cases hid : talk.id? with
    | none => simp [countsUser, madeWithoutId, answered, foundOnConflict, hcreated, hid]
    | some id =>
      rcases status_of_id hcreated hid with hstatus | hstatus
      · simp [countsUser, madeWithoutId, answered, foundOnConflict, hcreated, hid, hstatus]
      · simp [countsUser, madeWithoutId, answered, foundOnConflict, hcreated, hid, hstatus]

theorem sum_countP_countsUser (talks : List Talk) :
    talks.countP countsUser + talks.countP madeWithoutId
      = talks.countP (·.answered 201) + talks.countP foundOnConflict := by
  induction talks with
  | nil => rfl
  | cons talk rest ih =>
    have hone := talk.sum_countsUser
    rw [← List.singleton_append (x := talk)]
    simp only [List.countP_append]
    omega

end Keycloak.Talk

/-! ## A batch -/

/-- The same chat server beside a list of turns that it leaves alone. -/
def Chat.unrecorded {σ : Type} (chat : Chat σ) : Chat (σ × List Turn) :=
  chat.within Prod.fst fun s t => (s, t.2)

/-- A chat server that leaves the turns alone adds none to those of the talk. -/
theorem Keycloak.Talk.Ends.turns {σ : Type} {talk : Talk} {chat : Chat σ} {env : Environment}
    {record : Record} {outcome : Outcome} {s t : σ × List Turn}
    (h : talk.Ends chat.unrecorded env record s outcome t) : t.2 = s.2 := by
  cases h with
  | notIdentified => rfl
  | passwordRefused => rfl
  | passwordSet _ provision => exact congrArg (fun r => r.state.2) provision.symm

namespace Servers

variable {σ : Type} {k : Keycloak} {send : Http.Transport σ} {session : Session} {chat : Chat σ}
  {env : Environment}

/-- The turns of a batch are those of one talk for each record, and the calls that made users are
the talks that count. -/
theorem Ways.talks {records : List Record} {s t : σ × List Turn} {blocks : List (List Call)}
    {events : List Event} {outcomes : List Outcome}
    (h : Ways ⟨k.server send.recorded session, chat.unrecorded⟩ env s records blocks events
      outcomes t) :
    ∃ talks : List Talk, talks.length = records.length ∧
      t.2 = s.2 ++ (List.zipWith (Talk.turns k session) records talks).flatten ∧
      blocks.flatten.countP Call.createsUser = talks.countP Talk.countsUser := by
  induction h with
  | nil => exact ⟨[], rfl, (List.append_nil _).symm, rfl⟩
  | cons way _ ih =>
    obtain ⟨talks, hlength, hturns, hcount⟩ := ih
    obtain ⟨talk, u, hsends, hends, hone⟩ := way.talk
    refine ⟨talk :: talks, ?_, ?_, ?_⟩
    · rw [List.length_cons, List.length_cons, hlength]
    · rw [hturns, hends.turns, hsends.recorded, List.zipWith_cons_cons, List.flatten_cons,
        List.append_assoc]
    · rw [List.flatten_cons, List.countP_append, hone, hcount, ← List.countP_append]
      rfl

/-! ## A run -/

theorem unrecorded_agree (k : Keycloak) (session : Session) (send : Http.Transport σ)
    (chat : Chat σ) :
    Agree Turn.Drops ⟨k.server send.recorded session, chat.unrecorded⟩
      ⟨k.server send session, chat⟩ := by
  refine k.servers_agree send.recorded_agrees session fun env username password => ?_
  rintro s t rfl
  exact ⟨rfl, rfl, rfl⟩

/-- What a run over Keycloak counts as users that were made, whatever the answers and the chat
server are.  With one talk for each record: the users whose request was answered with 201, but for
those that were left without an id, and the users of a conflict whose id was found. -/
theorem run_counts_conflicts (k : Keycloak) (session : Session) (send : Http.Transport σ)
    (chat : Chat σ) (env : Environment) (records : List Record) (s : σ) (turns : List Turn) :
    let plain := run ⟨k.server send session, chat⟩ env records s
    let recorded :=
      run ⟨k.server send.recorded session, chat.unrecorded⟩ env records (s, turns)
    (recorded.value = plain.value ∧ recorded.reports = plain.reports ∧
        recorded.state.1 = plain.state) ∧
      ∃ talks : List Talk, talks.length = records.length ∧
        recorded.state.2
          = turns ++ (List.zipWith (Talk.turns k session) records talks).flatten ∧
        plain.value.summary.usersCreated + talks.countP Talk.madeWithoutId
          = talks.countP (·.answered 201) + talks.countP Talk.foundOnConflict := by
  intro plain recorded
  have hagree : recorded.value = plain.value ∧ recorded.reports = plain.reports ∧
      recorded.state.1 = plain.state :=
    (unrecorded_agree k session send chat).run env records (s, turns) s rfl
  obtain ⟨blocks, _, hways, hsummary, _⟩ :=
    run_ways ⟨k.server send.recorded session, chat.unrecorded⟩ env records (s, turns)
  obtain ⟨talks, hlength, hturns, hcount⟩ := hways.talks
  have husers : plain.value.summary.usersCreated = talks.countP Talk.countsUser := by
    rw [← hcount, ← hagree.1, show recorded.value.summary = _ from hsummary, Summary.zero_after]
  refine ⟨hagree, talks, hlength, hturns, ?_⟩
  rw [husers]
  exact Talk.sum_countP_countsUser talks

/-! ### A conflict -/

/-- A server that does not find a user, cannot make one because there is one, and then finds it. -/
def conflicting : Http.Script :=
  .ofAnswers [⟨404, [], []⟩, ⟨409, [], []⟩,
    ⟨200, [], Utf8.encode "[\x7b\"id\":\"7\"\x7d]".toList⟩, ⟨204, [], []⟩]

/-- A chat server that makes every account. -/
def obliging : Chat Http.Script where
  provision _ _ _ := pure (.ok ())

/-- A run of one record over the conflict. -/
def conflictingRun : Act.Done Event (Http.Script × List Turn) Tally :=
  run ⟨Keycloak.server ⟨site, "dev"⟩ (Http.Transport.recorded Http.Script.send) (.ofToken "token"),
    obliging.unrecorded⟩ .dev [⟨"alice", ⟨"Secret1"⟩⟩] (conflicting, [])

theorem conflictingRun_counts :
    conflictingRun.value.summary.usersCreated = 1 ∧
      conflictingRun.state.2.map (·.answer.status) = [404, 409, 200, 204] := by
  decide +kernel

/-- The users that are counted are not those whose request was answered with 201. -/
theorem not_run_counts_made :
    ¬ ∀ (k : Keycloak) (session : Session) (send : Http.Transport Http.Script)
      (chat : Chat Http.Script) (env : Environment) (records : List Record) (s : Http.Script),
      let recorded := run ⟨k.server send.recorded session, chat.unrecorded⟩ env records (s, [])
      ∃ talks : List Talk, talks.length = records.length ∧
        recorded.state.2 = (List.zipWith (Talk.turns k session) records talks).flatten ∧
        recorded.value.summary.usersCreated = talks.countP (·.answered 201) := by
  intro hclaim
  have hrun := hclaim ⟨site, "dev"⟩ (.ofToken "token") Http.Script.send obliging .dev
    [⟨"alice", ⟨"Secret1"⟩⟩] conflicting
  rw [← conflictingRun] at hrun
  obtain ⟨talks, hlength, hturns, hcount⟩ := hrun
  obtain ⟨talk, rfl⟩ := List.length_eq_one_iff.mp hlength
  have hmade : talk.answered 201 := by
    rw [conflictingRun_counts.1] at hcount
    simpa using hcount
  obtain ⟨turn, hturn, hstatus⟩ := talk.turn_of_answered hmade ⟨site, "dev"⟩ (.ofToken "token")
    ⟨"alice", ⟨"Secret1"⟩⟩
  have hmem : turn ∈ conflictingRun.state.2 := by
    rw [hturns]
    simpa using hturn
  have hstatuses : 201 ∈ conflictingRun.state.2.map (·.answer.status) :=
    List.mem_map.mpr ⟨turn, hmem, hstatus⟩
  rw [conflictingRun_counts.2] at hstatuses
  exact absurd hstatuses (by decide)

end Servers

end Onboarding
