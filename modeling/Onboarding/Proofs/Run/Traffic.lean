import Onboarding.Proofs.Clients
import Onboarding.Proofs.Http.Turn
import Onboarding.Run

/-!
# What a run does to the world

A run reaches the world through a transport and a launcher.  `Traffic` is the world together with
the requests that went out and the programs that were started, in order, each with what came of it;
the observed transport and launcher do what the plain ones do and write it down.

* `run_agrees`: runs over worlds that agree on requests and programs agree.  An observed run
  therefore ends, prints and reports as the plain run does (`run_observed`).
* `Sends.observed`: what is sent over an observed transport is what the traffic has more, and it is
  sent over the plain transport too.
-/

namespace Onboarding

variable {σ τ : Type}

/-! ## Runs over related worlds -/

section

variable {R : σ → τ → Prop} {launcher : Launcher σ} {launcher' : Launcher τ}
  {send : Http.Transport σ} {send' : Http.Transport τ}

/-- The chat servers of a plan over related worlds: both fail alike, or both are there and agree. -/
theorem ChatPlan.server_agrees (hlauncher : Launcher.Agree R launcher launcher')
    (hsend : ∀ r, Act.Agrees R (send r) (send' r)) (plan : ChatPlan) :
    (∃ e, plan.server launcher send = .error e ∧ plan.server launcher' send' = .error e) ∨
      ∃ chat chat', plan.server launcher send = .ok chat ∧
        plan.server launcher' send' = .ok chat' ∧
        ∀ env username password, Act.Agrees R (chat.provision env username password)
          (chat'.provision env username password) := by
  cases plan with
  | script root =>
    exact Or.inr ⟨_, _, rfl, rfl, Chat.Script.provision_agrees hlauncher root⟩
  | synapse baseUrl serverName token =>
    cases hmake : Synapse.make baseUrl serverName token with
    | error e =>
      refine Or.inl ⟨e, ?_, ?_⟩
      · rw [ChatPlan.server, hmake]
        rfl
      · rw [ChatPlan.server, hmake]
        rfl
    | ok synapse =>
      refine Or.inr ⟨_, _, ?_, ?_, synapse.provision_agrees hsend⟩
      · rw [ChatPlan.server, hmake]
        rfl
      · rw [ChatPlan.server, hmake]
        rfl

theorem Plan.execute_agrees (hsend : ∀ r, Act.Agrees R (send r) (send' r)) (plan : Plan)
    (keycloak : Keycloak) {chat : Chat σ} {chat' : Chat τ}
    (hchat : ∀ env username password, Act.Agrees R (chat.provision env username password)
      (chat'.provision env username password)) :
    Act.Agrees R (plan.execute keycloak chat send) (plan.execute keycloak chat' send') := by
  refine (Act.Agrees.report R _).bind fun _ => ?_
  refine ((keycloak.authenticate_agrees hsend _).reportAs _).bind fun answer => ?_
  cases answer with
  | error e => exact Act.Agrees.pure R _
  | ok session =>
    have hservers := keycloak.servers_agree hsend session hchat
    exact ((hservers.run _ _).reportAs _).bind fun _ => Act.Agrees.pure R _

namespace CommandLine.Options

theorem execute_agrees (hlauncher : Launcher.Agree R launcher launcher')
    (hsend : ∀ r, Act.Agrees R (send r) (send' r)) (o : Options) (h : Host) :
    Act.Agrees R (o.execute h launcher send) (o.execute h launcher' send') := by
  rw [execute, execute]
  cases o.plan h with
  | error e => exact Act.Agrees.pure R _
  | ok plan =>
    dsimp only
    cases o.chatPlan h plan.settings with
    | error e => exact Act.Agrees.pure R _
    | ok chatPlan =>
      refine (Act.Agrees.report R _).bind fun _ => ?_
      rcases chatPlan.server_agrees hlauncher hsend with
        ⟨e, he, he'⟩ | ⟨chat, chat', hchat, hchat', hagree⟩
      · rw [he, he']
        exact Act.Agrees.pure R _
      · rw [hchat, hchat']
        cases Keycloak.make plan.keycloakUrl plan.realm with
        | error e => exact Act.Agrees.pure R _
        | ok keycloak => exact plan.execute_agrees hsend keycloak hagree

/-- Runs over worlds that agree on requests and programs agree. -/
theorem run_agrees (hlauncher : Launcher.Agree R launcher launcher')
    (hsend : ∀ r, Act.Agrees R (send r) (send' r)) (o : Options) (h : Host) :
    Act.Agrees R (o.run h launcher send) (o.run h launcher' send') := by
  refine (o.execute_agrees hlauncher hsend h).bind fun ended => ?_
  cases ended with
  | ok tally => exact Act.Agrees.pure R _
  | error e => exact (Act.Agrees.report R _).bind fun _ => Act.Agrees.pure R _

end CommandLine.Options

end

/-! ## Traffic -/

/-- A program that was started, and what came of it. -/
structure Start where
  invocation : Invocation
  result : Except SystemError Finished

/-- A world, the requests that went out into it, and the programs that were started in it. -/
structure Traffic (σ : Type) where
  world : σ
  turns : List Http.Turn
  started : List Start

namespace Traffic

/-- A world that nothing was asked of. -/
def quiet (s : σ) : Traffic σ :=
  ⟨s, [], []⟩

/-- Traffic with a world below that a plain world stands for. -/
def Hides (t : Traffic σ) (s : σ) : Prop :=
  t.world = s

end Traffic

/-- The same transport, with a list of what is sent. -/
def Http.Transport.observed (send : Http.Transport σ) : Http.Transport (Traffic σ) :=
  fun request t =>
    let r := send request t.world
    ⟨r.value, r.reports, ⟨r.state, t.turns ++ [⟨request, r.value⟩], t.started⟩⟩

/-- The same launcher, with a list of what is started. -/
def Launcher.observed (launcher : Launcher σ) : Launcher (Traffic σ) where
  isFile path t := launcher.isFile path t.world
  start invocation t :=
    let r := launcher.start invocation t.world
    ⟨r.value, r.reports, ⟨r.state, t.turns, t.started ++ [⟨invocation, r.value⟩]⟩⟩

theorem Http.Transport.observed_agrees (send : Http.Transport σ) (r : Http.Request) :
    Act.Agrees Traffic.Hides (send.observed r) (send r) := by
  rintro t s rfl
  exact ⟨rfl, rfl, rfl⟩

theorem Launcher.observed_agree (launcher : Launcher σ) :
    Launcher.Agree Traffic.Hides launcher.observed launcher where
  isFile := by
    rintro path t s rfl
    rfl
  start := by
    rintro invocation t s rfl
    exact ⟨rfl, rfl, rfl⟩

/-- Watching a run changes neither how it ends nor what it reports. -/
theorem CommandLine.Options.run_observed (o : Options) (h : Host) (launcher : Launcher σ)
    (send : Http.Transport σ) (s : σ) :
    let plain := o.run h launcher send s
    let watched := o.run h launcher.observed send.observed (.quiet s)
    watched.value = plain.value ∧ watched.reports = plain.reports ∧
      watched.state.world = plain.state :=
  o.run_agrees launcher.observed_agree send.observed_agrees h (.quiet s) s rfl

/-- What is sent over an observed transport is written down, and nothing else is; it is sent in the
world below in the same way. -/
theorem Http.Sends.observed {send : Http.Transport σ} {turns : List Http.Turn} {t u : Traffic σ}
    (h : Http.Sends send.observed t turns u) :
    Http.Sends send t.world turns u.world ∧ u.turns = t.turns ++ turns ∧
      u.started = t.started := by
  induction h with
  | nil t => exact ⟨.nil t.world, (List.append_nil _).symm, rfl⟩
  | @cons request turns t u _ ih =>
    obtain ⟨hsends, hturns, hstarted⟩ := ih
    refine ⟨.cons hsends, ?_, hstarted⟩
    rw [hturns]
    exact List.append_assoc _ _ _

end Onboarding
