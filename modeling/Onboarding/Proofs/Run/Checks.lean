import Onboarding.Run

/-!
# The checks of a run

What a run checks before its first request.  `Check` lists the checks in order, `fault?` is the
error of each of them taken by itself, and `firstFault?` is the first of these errors.

* `plan_cases`: the checks are done in this order.
* `passed_of_no_fault`: a run without a fault has everything that it needs (`Passed`).
* `exitCode_of_firstFault`: a fault ends the run with code 2.
-/

namespace Onboarding

open CommandLine (Options)

/-! ## Checks -/

/-- What a run checks before its first request. -/
inductive Check where
  | settings
  | credentials
  | keycloakUrl
  | realm
  | roster
  | chat
  | keycloak
  deriving DecidableEq

/-- The checks in the order in which a run does them. -/
def Check.all : List Check :=
  [settings, credentials, keycloakUrl, realm, roster, chat, keycloak]

/-- The error of something that failed. -/
def errorOf? {ε α : Type} : Except ε α → Option ε
  | .error e => some e
  | .ok _ => none

theorem errorOf?_eq_some {ε α : Type} {x : Except ε α} {e : ε} :
    errorOf? x = some e ↔ x = .error e := by
  cases x with
  | error cause => simp [errorOf?]
  | ok a => simp [errorOf?]

theorem errorOf?_eq_none {ε α : Type} {x : Except ε α} :
    errorOf? x = none ↔ ∃ a, x = .ok a := by
  cases x with
  | error cause => simp [errorOf?]
  | ok a => simp [errorOf?]

/-- A computation in two parts fails in the first, or goes on with what the first gives. -/
theorem bind_cases {ε α β : Type} {x : Except ε α} {f : α → Except ε β} {r : Except ε β}
    (h : x >>= f = r) : (∃ e, x = .error e ∧ r = .error e) ∨ ∃ a, x = .ok a ∧ f a = r := by
  cases x with
  | error e => exact Or.inl ⟨e, rfl, h.symm⟩
  | ok a => exact Or.inr ⟨a, rfl, h⟩

theorem required_eq_ok {α : Type} {name : String} {value : Option α} {a : α} :
    required name value = .ok a ↔ value = some a := by
  cases value with
  | some b => simp [required]
  | none => simp [required]

theorem mapError_ok {ε ε' α : Type} (f : ε → ε') (a : α) :
    (Except.ok a : Except ε α).mapError f = .ok a :=
  rfl

theorem mapError_eq_ok {ε ε' α : Type} {f : ε → ε'} {x : Except ε α} {a : α} :
    x.mapError f = .ok a ↔ x = .ok a := by
  cases x with
  | ok b => rw [mapError_ok, Except.ok.injEq, Except.ok.injEq]
  | error e => exact iff_of_false nofun nofun

/-- The error of a chat server that cannot be set up. -/
def ChatPlan.fault? : ChatPlan → Option RunError
  | script _ => none
  | synapse baseUrl serverName token => errorOf? (Synapse.make baseUrl serverName token)

namespace CommandLine.Options

/-- The settings of a run, or none when they cannot be loaded. -/
def settingsOf (o : Options) (h : Host) : Settings :=
  match Settings.load h o.config with
  | .ok settings => settings
  | .error _ => .unset

/-- The error of a check, taken by itself.  A check that needs what an earlier one found goes on
without it when that one failed. -/
def fault? (o : Options) (h : Host) : Check → Option RunError
  | .settings => errorOf? ((Settings.load h o.config).mapError RunError.settings)
  | .credentials =>
    errorOf? (Credentials.select o.adminUsername o.adminPassword o.clientId o.clientSecret)
  | .keycloakUrl =>
    errorOf? (required "--kc-base-url" (o.keycloakUrl <|> (o.settingsOf h).keycloakUrl))
  | .realm => errorOf? (required "--realm" (o.realm <|> (o.settingsOf h).realm))
  | .roster =>
    errorOf? ((Roster.ofFile o.csv (h.read o.csv)).mapError (RunError.config ·.message))
  | .chat =>
    match o.chatPlan h (o.settingsOf h) with
    | .error e => some e
    | .ok chatPlan => chatPlan.fault?
  | .keycloak =>
    errorOf? (Keycloak.make ((o.keycloakUrl <|> (o.settingsOf h).keycloakUrl).getD "")
      ((o.realm <|> (o.settingsOf h).realm).getD ""))

/-- The error of the first check that fails. -/
def firstFault? (o : Options) (h : Host) : Option RunError :=
  Check.all.findSome? (o.fault? h)

/-- The first five checks found what a plan is made of. -/
structure Planned (o : Options) (h : Host) (plan : Plan) : Prop where
  env : plan.env = o.env
  settings : Settings.load h o.config = .ok plan.settings
  credentials : Credentials.select o.adminUsername o.adminPassword o.clientId o.clientSecret
    = .ok plan.credentials
  keycloakUrl : (o.keycloakUrl <|> plan.settings.keycloakUrl) = some plan.keycloakUrl
  realm : (o.realm <|> plan.settings.realm) = some plan.realm
  records : Roster.ofFile o.csv (h.read o.csv) = .ok plan.records

/-- All checks found what a run needs. -/
structure Passed (o : Options) (h : Host) (plan : Plan) (chatPlan : ChatPlan)
    (keycloak : Keycloak) : Prop extends Planned o h plan where
  chat : o.chatPlan h plan.settings = .ok chatPlan
  chatServer : chatPlan.fault? = none
  keycloakServer : Keycloak.make plan.keycloakUrl plan.realm = .ok keycloak

variable {σ : Type} {o : Options} {h : Host}

/-- A run for production has no plan. -/
theorem plan_of_production (henv : o.env = .prod) : o.plan h = .error .productionRefused := by
  simp [plan, RunError.guardProduction, henv, Environment.isProduction, bind, Except.bind]

theorem guard_of_not_production {env : Environment} (henv : env ≠ .prod) :
    RunError.guardProduction env = .ok () := by
  cases env with
  | dev => rfl
  | prod => exact absurd rfl henv

/-- What the first five checks found is the plan. -/
theorem plan_of_planned (henv : o.env ≠ .prod) {found : Plan} (hfound : Planned o h found) :
    o.plan h = .ok found := by
  have hguard := guard_of_not_production (hfound.env ▸ henv)
  simp [plan, hguard, hfound.settings, hfound.credentials, hfound.keycloakUrl, hfound.realm,
    hfound.records, ← hfound.env, mapError_ok, required, bind, Except.bind, pure, Except.pure]

theorem settingsOf_of_load {settings : Settings}
    (hload : Settings.load h o.config = .ok settings) : o.settingsOf h = settings := by
  rw [settingsOf, hload]

/-- The first check comes off a list of checks.  The computation that makes it fails with its error,
which is the first of the list, or goes on, and then the rest of the list decides. -/
theorem check_cases {first : Option RunError} {check : Check} {rest : List Check} {α β : Type}
    {x : Except RunError α} {f : α → Except RunError β} {r : Except RunError β}
    (hlist : first = (check :: rest).findSome? (o.fault? h))
    (hcheck : o.fault? h check = errorOf? x) (hr : x >>= f = r) :
    (∃ e, r = .error e ∧ first = some e) ∨
      ∃ a, x = .ok a ∧ f a = r ∧ first = rest.findSome? (o.fault? h) := by
  rw [List.findSome?_cons, hcheck] at hlist
  rcases bind_cases hr with ⟨e, rfl, rfl⟩ | ⟨a, rfl, ha⟩
  · exact Or.inl ⟨e, rfl, hlist⟩
  · exact Or.inr ⟨a, rfl, ha, hlist⟩

/-- The checks are done in order.  The first fault of the first five is the error of the plan;
without one there is a plan, and the last two checks decide. -/
theorem plan_cases (henv : o.env ≠ .prod) :
    (∃ e, o.plan h = .error e ∧ o.firstFault? h = some e) ∨
      ∃ plan, Planned o h plan ∧
        o.firstFault? h =
          match o.chatPlan h plan.settings with
          | .error e => some e
          | .ok chatPlan =>
            chatPlan.fault?.or (errorOf? (Keycloak.make plan.keycloakUrl plan.realm)) := by
  obtain ⟨r, hr⟩ : ∃ r, o.plan h = r := ⟨_, rfl⟩
  rw [hr]
  rw [Options.plan] at hr
  have hall : o.firstFault? h = Check.all.findSome? (o.fault? h) := rfl
  rcases bind_cases hr with ⟨e, hguard, _⟩ | ⟨_, _, hr⟩
  · rw [guard_of_not_production henv] at hguard
    cases hguard
  rcases check_cases hall rfl hr with hfault | ⟨settings, hsettings, hr, hlist⟩
  · exact Or.inl hfault
  -- From here on the settings that were loaded are those that the checks look into.
  have hof := settingsOf_of_load (mapError_eq_ok.mp hsettings)
  rcases check_cases hlist rfl hr with hfault | ⟨credentials, hcredentials, hr, hlist⟩
  · exact Or.inl hfault
  rcases check_cases hlist (by rw [fault?, hof]) hr with hfault | ⟨url, hurl, hr, hlist⟩
  · exact Or.inl hfault
  rcases check_cases hlist (by rw [fault?, hof]) hr with hfault | ⟨realm, hrealm, hr, hlist⟩
  · exact Or.inl hfault
  rcases check_cases hlist rfl hr with hfault | ⟨records, hroster, hr, hlist⟩
  · exact Or.inl hfault
  have hplanned : Planned o h ⟨o.env, credentials, url, realm, records, settings⟩ :=
    { env := rfl
      settings := mapError_eq_ok.mp hsettings
      credentials := hcredentials
      keycloakUrl := required_eq_ok.mp hurl
      realm := required_eq_ok.mp hrealm
      records := mapError_eq_ok.mp hroster }
  have hkeycloak : o.fault? h .keycloak = errorOf? (Keycloak.make url realm) := by
    rw [fault?, hof, hplanned.keycloakUrl, hplanned.realm]
    rfl
  refine Or.inr ⟨_, hplanned, ?_⟩
  rw [hlist, List.findSome?_cons, List.findSome?_singleton, hkeycloak, fault?, hof]
  cases o.chatPlan h settings with
  | error e => rfl
  | ok chatPlan =>
    cases hserver : chatPlan.fault? with
    | some e => simp [hserver]
    | none => simp [hserver]

/-- All checks pass when none of them has a fault. -/
theorem passed_of_no_fault (henv : o.env ≠ .prod) (hnone : o.firstFault? h = none) :
    ∃ plan chatPlan keycloak, Passed o h plan chatPlan keycloak := by
  rcases plan_cases (h := h) henv with ⟨e, _, hfault⟩ | ⟨plan, hplanned, hlast⟩
  · rw [hnone] at hfault
    cases hfault
  · rw [hlast] at hnone
    cases hchat : o.chatPlan h plan.settings with
    | error e => simp [hchat] at hnone
    | ok chatPlan =>
      obtain ⟨hserver, hmake⟩ : chatPlan.fault? = none ∧
          errorOf? (Keycloak.make plan.keycloakUrl plan.realm) = none := by
        simpa [hchat, Option.or_eq_none_iff] using hnone
      obtain ⟨keycloak, hkeycloak⟩ := errorOf?_eq_none.mp hmake
      exact ⟨plan, chatPlan, keycloak, ⟨hplanned, hchat, hserver, hkeycloak⟩⟩

/-! ## Exit codes of the checks -/

/-- Errors of the configuration or of the credentials only: those that end a run with code 2. -/
def FailsWithTwo {α : Type} (x : Except RunError α) : Prop :=
  ∀ e, x = .error e → e.exitCode = 2

theorem FailsWithTwo.ok {α : Type} (a : α) : FailsWithTwo (.ok a) :=
  fun _ he => nomatch he

theorem FailsWithTwo.config {α : Type} (message : String) :
    FailsWithTwo (.error (.config message) : Except RunError α) := by
  rintro e ⟨⟩
  rfl

theorem FailsWithTwo.bind {α β : Type} {x : Except RunError α} {f : α → Except RunError β}
    (hx : FailsWithTwo x) (hf : ∀ a, FailsWithTwo (f a)) : FailsWithTwo (x >>= f) := by
  intro e he
  cases x with
  | error cause =>
    cases he
    exact hx _ rfl
  | ok a => exact hf a e he

theorem FailsWithTwo.map {α β : Type} {x : Except RunError α} (hx : FailsWithTwo x)
    (f : α → β) : FailsWithTwo (x.map f) := by
  intro e he
  cases x with
  | error cause =>
    cases he
    exact hx _ rfl
  | ok a => cases he

theorem required_failsWithTwo {α : Type} (name : String) (value : Option α) :
    FailsWithTwo (required name value) := by
  cases value with
  | some a => exact FailsWithTwo.ok a
  | none => exact FailsWithTwo.config _

/-- Errors of settings, rosters and repositories as errors of a run. -/
theorem FailsWithTwo.mapError {ε α : Type} {f : ε → RunError} (hf : ∀ e, (f e).exitCode = 2)
    (x : Except ε α) : FailsWithTwo (x.mapError f) := by
  cases x with
  | ok a => exact FailsWithTwo.ok a
  | error cause =>
    rintro e ⟨⟩
    exact hf cause

theorem select_failsWithTwo (username password clientId secret : Option String) :
    FailsWithTwo (Credentials.select username password clientId secret) := by
  rw [Credentials.select]
  split
  · exact FailsWithTwo.ok _
  · split
    · exact FailsWithTwo.ok _
    · rintro e ⟨⟩
      rfl

theorem synapse_failsWithTwo (base name : String) (token : Secret) :
    FailsWithTwo (Synapse.make base name token) := by
  rw [Synapse.make]
  split
  · exact FailsWithTwo.config _
  · split
    · exact FailsWithTwo.config _
    · split
      · exact FailsWithTwo.config _
      · split
        · exact FailsWithTwo.config _
        · exact FailsWithTwo.ok _

theorem keycloak_failsWithTwo (base realm : String) : FailsWithTwo (Keycloak.make base realm) := by
  rw [Keycloak.make]
  split
  · exact FailsWithTwo.config _
  · split
    · exact FailsWithTwo.config _
    · split
      · exact FailsWithTwo.config _
      · exact FailsWithTwo.ok _

theorem chatPlan_failsWithTwo (o : Options) (h : Host) (settings : Settings) :
    FailsWithTwo (o.chatPlan h settings) := by
  rw [chatPlan]
  split
  · exact (FailsWithTwo.mapError (fun _ => rfl) _).map _
  · refine (required_failsWithTwo _ _).bind fun url => ?_
    refine (required_failsWithTwo _ _).bind fun name => ?_
    exact (required_failsWithTwo _ _).bind fun token => FailsWithTwo.ok _

/-- Every error of a check ends the run with code 2. -/
theorem exitCode_of_fault {check : Check} {e : RunError} (hfault : o.fault? h check = some e) :
    e.exitCode = 2 := by
  cases check with
  | settings => exact FailsWithTwo.mapError (fun _ => rfl) _ e (errorOf?_eq_some.mp hfault)
  | credentials => exact select_failsWithTwo _ _ _ _ e (errorOf?_eq_some.mp hfault)
  | keycloakUrl => exact required_failsWithTwo _ _ e (errorOf?_eq_some.mp hfault)
  | realm => exact required_failsWithTwo _ _ e (errorOf?_eq_some.mp hfault)
  | roster => exact FailsWithTwo.mapError (fun _ => rfl) _ e (errorOf?_eq_some.mp hfault)
  | chat =>
    cases hchat : o.chatPlan h (o.settingsOf h) with
    | error cause =>
      obtain rfl : cause = e := by simpa [fault?, hchat] using hfault
      exact chatPlan_failsWithTwo o h _ cause hchat
    | ok chatPlan =>
      have hserver : chatPlan.fault? = some e := by simpa [fault?, hchat] using hfault
      cases chatPlan with
      | script root => cases hserver
      | synapse base name token => exact synapse_failsWithTwo _ _ _ e (errorOf?_eq_some.mp hserver)
  | keycloak => exact keycloak_failsWithTwo _ _ e (errorOf?_eq_some.mp hfault)

theorem exitCode_of_firstFault {e : RunError} (hfault : o.firstFault? h = some e) :
    e.exitCode = 2 := by
  obtain ⟨check, _, hcheck⟩ := List.exists_of_findSome?_eq_some hfault
  exact exitCode_of_fault hcheck

end CommandLine.Options

end Onboarding
