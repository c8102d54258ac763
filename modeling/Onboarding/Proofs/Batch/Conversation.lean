import Onboarding.Proofs.Batch.Calls
import Onboarding.Proofs.Batch.Counts
import Onboarding.Proofs.Identity.Talk

/-!
# The requests of a record

Which requests a record makes, in which order, and how it ends with the answers, with Keycloak and
Synapse as the clients over an arbitrary transport.

* Talks.  `Driven.talk` says that a record is a talk with Keycloak, whatever the chat server is, and
  `Talk.Ends` how it goes on from there.
* Conversations.  A `Conversation` adds the one request to Synapse.  `process_requests` says that a
  record sends the requests of a conversation and no others, and that the answers decide its end.
-/

namespace Onboarding

open Http (Response Sends Turn)
open Keycloak (Lookup Session Talk)
open Servers (accountGood passwordGood)

/-! ## Talks -/

/-- How a record ends after a talk that left the state `s`: at the user when there is no id, at the
password when its answer is not good, and otherwise as the chat server has it. -/
inductive Keycloak.Talk.Ends {σ : Type} (talk : Talk) (chat : Chat σ) (env : Environment)
    (record : Record) (s : σ) : Outcome → σ → Prop where
  | notIdentified {cause : IdentityError} (id : talk.id? = none) :
      Ends talk chat env record s (.failed (.createUser cause)) s
  | passwordRefused {cause : IdentityError}
      (password : ∃ answer ∈ talk.password, ¬ passwordGood answer.status) :
      Ends talk chat env record s (.failed (.setPassword cause)) s
  | passwordSet {account : Except ChatError Unit} {notices : List Notice} {t : σ}
      (password : ∃ answer ∈ talk.password, passwordGood answer.status)
      (provision : chat.provision env record.username record.password s = ⟨account, notices, t⟩) :
      Ends talk chat env record s (.ofChat talk.created.isSome account) t

namespace Servers

section

variable {σ : Type} {k : Keycloak} {send : Http.Transport σ} {session : Session} {chat : Chat σ}
  {env : Environment} {record : Record} {s t u : σ} {calls : List Call} {events : List Event}
  {outcome : Outcome}

theorem Identified.lookup {created : Bool} {id : String}
    (h : Identified ⟨k.server send session, chat⟩ record s created id calls events t) :
    ∃ l : Lookup, l.created.isSome = created ∧ l.id? = some id ∧
      Sends send s (l.turns k session record.username) t := by
  cases h with
  | found find => exact Keycloak.lookup_of_find find
  | created find create => exact Keycloak.lookup_of_create find create

/-- With an id, a lookup goes on to the password, and the record ends after it. -/
theorem Finished.talk {l : Lookup} {id : String} (hid : l.id? = some id)
    (hsends : Sends send s (l.turns k session record.username) t)
    (h : Finished ⟨k.server send session, chat⟩ env record l.created.isSome id t calls
      events outcome u) :
    ∃ (answer : Response) (v : σ),
      Sends send s ((l.withPassword hid answer).turns k session record) v ∧
        (l.withPassword hid answer).Ends chat env record v outcome u := by
  have hset : ∀ {set : Except IdentityError Unit} {notices : List Notice} {v : σ},
      k.setPassword send session id record.password t = ⟨set, notices, v⟩ →
      ∃ answer, (set = .ok () ↔ passwordGood answer.status) ∧
        Sends send s ((l.withPassword hid answer).turns k session record) v := by
    intro set notices v h
    obtain ⟨answer, hgood, hv⟩ := Keycloak.setPassword_turn h
    refine ⟨answer, hgood, ?_⟩
    rw [Lookup.turns_withPassword]
    exact hsends.append hv
  cases h with
  | passwordRefused set =>
    obtain ⟨answer, hgood, hv⟩ := hset set
    refine ⟨answer, u, hv, .passwordRefused ⟨answer, rfl, ?_⟩⟩
    intro h
    cases hgood.mpr h
  | accountRefused set provision | done set provision =>
    obtain ⟨answer, hgood, hv⟩ := hset set
    exact ⟨answer, _, hv, .passwordSet ⟨answer, rfl, hgood.mp rfl⟩ provision⟩

/-- A record is a talk with Keycloak, and ends as the talk and the chat server have it.  A user is
counted when the talk has one made and gives an id. -/
theorem Driven.talk
    (h : Driven ⟨k.server send session, chat⟩ env record s calls events outcome t) :
    ∃ (talk : Talk) (u : σ),
      Sends send s (talk.turns k session record) u ∧ talk.Ends chat env record u outcome t ∧
        calls.countP Call.createsUser = [talk].countP Talk.countsUser := by
  cases h with
  | notCreated find create =>
    obtain ⟨l, _, hid, hsends⟩ := Keycloak.lookup_of_create find create
    have hnone : l.id? = none := hid
    refine ⟨l.withoutId hnone, t, ?_, .notIdentified hnone, ?_⟩
    · rwa [Lookup.turns_withoutId]
    · rw [List.countP_singleton, Lookup.countsUser_withoutId]
      rfl
  | identified entry finish =>
    obtain ⟨l, rfl, hid, hsends⟩ := entry.lookup
    obtain ⟨answer, u, hv, hends⟩ := finish.talk hid hsends
    refine ⟨l.withPassword hid answer, u, hv, hends, ?_⟩
    rw [List.countP_append, entry.countP.1, finish.countP_createsUser,
      List.countP_singleton, Lookup.countsUser_withPassword]
    rfl

theorem Way.talk
    (h : Way ⟨k.server send session, chat⟩ env record s calls events outcome t) :
    ∃ (talk : Talk) (u : σ),
      Sends send s (talk.turns k session record) u ∧ talk.Ends chat env record u outcome t ∧
        calls.countP Call.createsUser = [talk].countP Talk.countsUser := by
  rcases h with ⟨hdriven⟩
  exact hdriven.talk

end

end Servers

/-! ## Synapse -/

namespace Synapse

/-- An account is one turn. -/
theorem provision_turn {σ : Type} {c : Synapse} {send : Http.Transport σ} {env : Environment}
    {username : String} {password : Secret} {account : Except ChatError Unit}
    {notices : List Notice} {s t : σ}
    (h : (c.server send).provision env username password s = ⟨account, notices, t⟩) :
    ∃ answer, (account = .ok () ↔ accountGood answer.status) ∧
      Sends send s [⟨c.putAccount username password, answer⟩] t := by
  obtain ⟨hvalue, hstate⟩ := c.provision_eq send env username password s
  rw [h] at hvalue hstate
  obtain rfl := hstate
  rw [accountRequest_eq] at hvalue ⊢
  exact ⟨_, hvalue, .one send _ s⟩

end Synapse

/-! ## Conversations -/

/-- A talk with Keycloak, and the answer to the request for the chat account when the password was
set. -/
structure Conversation extends Talk where
  account : Option Response
  account_iff : account.isSome ↔ ∃ answer ∈ password, passwordGood answer.status

namespace Conversation

/-- The requests of a conversation with their answers, in order. -/
def turns (k : Keycloak) (session : Session) (c : Synapse) (record : Record)
    (talk : Conversation) : List Turn :=
  talk.toTalk.turns k session record ++
    talk.account.toList.map (⟨c.putAccount record.username record.password, ·⟩)

/-- How a record ends by its answers. -/
structure Decides (talk : Conversation) (outcome : Outcome) : Prop where
  success_iff : outcome.isSuccess ↔ ∃ answer ∈ talk.account, accountGood answer.status
  createUser_iff : (∃ cause, outcome = .failed (.createUser cause)) ↔ talk.id? = none
  setPassword_iff : (∃ cause, outcome = .failed (.setPassword cause)) ↔
    ∃ answer ∈ talk.password, ¬ passwordGood answer.status
  provisionChat_iff : (∃ cause, outcome = .failed (.provisionChat cause)) ↔
    ∃ answer ∈ talk.account, ¬ accountGood answer.status

end Conversation

namespace Keycloak.Talk

/-- The conversation of a talk after which no password is set. -/
def withoutAccount (talk : Talk) (h : ¬ ∃ answer ∈ talk.password, passwordGood answer.status) :
    Conversation where
  toTalk := talk
  account := none
  account_iff := iff_of_false Bool.noConfusion h

/-- The conversation of a talk that set a password. -/
def withAccount (talk : Talk) (h : ∃ answer ∈ talk.password, passwordGood answer.status)
    (answer : Response) : Conversation where
  toTalk := talk
  account := some answer
  account_iff := iff_of_true rfl h

/-- A talk without an id has no answer to a password. -/
theorem password_of_id {talk : Talk} (h : talk.id? = none) : talk.password = none := by
  have hiff := talk.password_iff
  rw [h] at hiff
  simpa using hiff

/-- A talk with an answer to a password has an id. -/
theorem id_of_password {talk : Talk} {answer : Response} (h : answer ∈ talk.password) :
    talk.id? ≠ none := by
  intro hid
  rw [password_of_id hid] at h
  cases h

/-- With Synapse, a talk goes on to a conversation that decides how the record ends. -/
theorem Ends.conversation {σ : Type} {k : Keycloak} {session : Session} {c : Synapse}
    {send : Http.Transport σ} {env : Environment} {record : Record} {talk : Talk}
    {outcome : Outcome} {s t u : σ} (hsends : Sends send s (talk.turns k session record) t)
    (h : talk.Ends (c.server send) env record t outcome u) :
    ∃ conversation : Conversation,
      Sends send s (conversation.turns k session c record) u ∧ conversation.Decides outcome := by
  cases h with
  | notIdentified hid =>
    have hpassword := password_of_id hid
    refine ⟨talk.withoutAccount (by simp [hpassword]), ?_, ?_⟩
    · simpa [Conversation.turns, withoutAccount] using hsends
    · constructor <;> simp [withoutAccount, Outcome.isSuccess, hid, hpassword]
  | passwordRefused hrefused =>
    obtain ⟨answer, hpassword, hbad⟩ := hrefused
    have hid := id_of_password hpassword
    have hsome : talk.password = some answer := hpassword
    refine ⟨talk.withoutAccount (by simpa [hsome] using hbad), ?_, ?_⟩
    · simpa [Conversation.turns, withoutAccount] using hsends
    · constructor <;> simp [withoutAccount, Outcome.isSuccess, hid, hsome, hbad]
  | @passwordSet account _ _ hset provision =>
    obtain ⟨answer, hgood, haccount⟩ := Synapse.provision_turn provision
    refine ⟨talk.withAccount hset answer, ?_, ?_⟩
    · exact hsends.append haccount
    · obtain ⟨reset, hpassword, hreset⟩ := hset
      have hid := id_of_password hpassword
      have hsome : talk.password = some reset := hpassword
      cases account with
      | ok _ =>
        have hmade : accountGood answer.status := hgood.mp rfl
        constructor <;>
          simp [withAccount, Outcome.isSuccess, Outcome.ofChat, hid, hsome, hreset, hmade]
      | error cause =>
        have hrefused : ¬ accountGood answer.status := fun h => by cases hgood.mpr h
        constructor <;>
          simp [withAccount, Outcome.isSuccess, Outcome.ofChat, hid, hsome, hreset, hrefused]

end Keycloak.Talk

/-! ## Records -/

/-- Every request of a talk shows the token of the session. -/
theorem Keycloak.Talk.turns_authorization (talk : Talk) (k : Keycloak) (session : Session)
    (record : Record) :
    ∀ turn ∈ talk.turns k session record,
      turn.request.headers.lookup "Authorization" = some ("Bearer " ++ session.token.reveal) := by
  intro turn hturn
  simp only [turns, Lookup.turns, List.mem_append, List.mem_cons, List.mem_map,
    List.mem_flatMap] at hturn
  rcases hturn with (rfl | ⟨_, _, rfl⟩ | ⟨_, _, rfl⟩) | ⟨_, _, _, _, rfl⟩
  · rfl
  · rfl
  · rfl
  · rfl

namespace Servers

variable {σ : Type}

/-- The two clients over one transport. -/
def overTransport (k : Keycloak) (session : Session) (c : Synapse) (send : Http.Transport σ) :
    Servers σ :=
  ⟨k.server send session, c.server send⟩

theorem overTransport_recorded (k : Keycloak) (session : Session) (c : Synapse)
    (send : Http.Transport σ) :
    Agree Turn.Drops (overTransport k session c send.recorded) (overTransport k session c send) :=
  k.servers_agree send.recorded_agrees session (c.provision_agrees send.recorded_agrees)

/-- The requests of a record, whatever they are answered.  Writing the requests down changes nothing
of the record.  What is written down is a conversation: a search, the request that makes the user
when the search lists none, another search when the id is left open, the password when there is an
id, and the account when the password was set.  Its answers decide how the record ends.  Each
request shows the token of its server. -/
theorem process_requests (k : Keycloak) (session : Session) (c : Synapse)
    (send : Http.Transport σ) (env : Environment) (record : Record) (counts : Summary) (s : σ)
    (turns : List Turn) :
    let plain := (overTransport k session c send).process env record counts s
    let recorded :=
      (overTransport k session c send.recorded).process env record counts (s, turns)
    (recorded.value = plain.value ∧ recorded.reports = plain.reports ∧
        recorded.state.1 = plain.state) ∧
      ∃ talk : Conversation,
        recorded.state.2 = turns ++ talk.turns k session c record ∧
        talk.Decides plain.value.1 ∧
        (∀ turn ∈ talk.toTalk.turns k session record,
          turn.request.headers.lookup "Authorization"
            = some ("Bearer " ++ session.token.reveal)) ∧
        (c.putAccount record.username record.password).headers.lookup "Authorization"
          = some ("Bearer " ++ c.token.reveal) := by
  intro plain recorded
  have hagree : recorded.value = plain.value ∧ recorded.reports = plain.reports ∧
      recorded.state.1 = plain.state :=
    (overTransport_recorded k session c send).process env record counts (s, turns) s rfl
  obtain ⟨calls, hway, _⟩ :=
    process_way (overTransport k session c send.recorded) env record counts (s, turns)
  obtain ⟨talk, t, hsends, hends, _⟩ := hway.talk
  obtain ⟨conversation, hconversation, hdecides⟩ := hends.conversation hsends
  have houtcome : recorded.value.1 = plain.value.1 := congrArg Prod.fst hagree.1
  refine ⟨hagree, conversation, hconversation.recorded, ?_,
    conversation.toTalk.turns_authorization k session record, rfl⟩
  rw [← houtcome]
  exact hdecides

end Servers

end Onboarding
