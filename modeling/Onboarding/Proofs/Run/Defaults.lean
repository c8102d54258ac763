import Onboarding.Proofs.Run.Order

/-!
# Settings as defaults

Settings are nothing but defaults for options.  A run with settings is the run without any whose
options have each value that they lack filled in from the settings.

* `filledFrom` fills in what options lack.  Credentials and the token for Synapse have no place in
  the settings, and stay what the options say.
* `plan_filledFrom`, `chatPlan_filledFrom`: the checks come to the same plan, or fail alike.
* `run_filledFrom`: the whole run is the same, requests included, and what the options say stands.
-/

namespace Onboarding

open CommandLine (Options)

namespace CommandLine.Options

/-- Options with each value that they lack taken from settings, which name another file for
settings, or none. -/
def filledFrom (o : Options) (s : Settings) (config : Option String) : Options :=
  { o with
    config
    keycloakUrl := o.keycloakUrl <|> s.keycloakUrl
    realm := o.realm <|> s.realm
    repository := o.repository <|> s.repository
    timeout := o.timeout <|> s.timeout
    backend := o.backend <|> s.chat.backend
    synapseUrl := o.synapseUrl <|> s.chat.synapse.baseUrl
    serverName := o.serverName <|> s.chat.synapse.serverName }

/-- A whole run, over the transport that goes with the timeout of the run. -/
def runOver {σ : Type} (o : Options) (h : Host) (launcher : Launcher σ)
    (connect : Option Nat → Http.Transport σ) : Act RunReport σ Ending :=
  o.run h launcher (connect (o.timeoutOf (o.settingsOf h)))

/-- Two hosts that a run can tell apart by their settings only. -/
structure SameButSettings (o : Options) (h h' : Host) : Prop where
  directory : h'.directory = h.directory
  executable : h'.executable = h.executable
  roster : h'.read o.csv = h.read o.csv

variable {σ : Type} {o : Options} {h h' : Host} {settings : Settings}
  {config : Option String}

/-! ## Plans -/

/-- Without settings a value stays what it is. -/
theorem orElse_absent {α : Type} (value : Option α) : (value <|> none) = value := by
  cases value with
  | none => rfl
  | some a => rfl

/-- The plan is the same but for the settings, which are used up. -/
theorem plan_filledFrom (hload : Settings.load h o.config = .ok settings)
    (hunset : Settings.load h' config = .ok .unset) (hsame : SameButSettings o h h') :
    (o.filledFrom settings config).plan h'
      = (o.plan h).map fun plan => { plan with settings := .unset } := by
  have hurl : ((o.keycloakUrl <|> settings.keycloakUrl) <|> Settings.unset.keycloakUrl)
      = (o.keycloakUrl <|> settings.keycloakUrl) := orElse_absent _
  have hrealm : ((o.realm <|> settings.realm) <|> Settings.unset.realm)
      = (o.realm <|> settings.realm) := orElse_absent _
  simp only [plan, filledFrom, hload, hunset, hsame.roster, mapError_ok, bind, Except.bind, hurl,
    hrealm]
  cases RunError.guardProduction o.env with
  | error e => rfl
  | ok _ =>
    cases Credentials.select o.adminUsername o.adminPassword o.clientId o.clientSecret with
    | error e => rfl
    | ok credentials =>
      cases required "--kc-base-url" (o.keycloakUrl <|> settings.keycloakUrl) with
      | error e => rfl
      | ok url =>
        cases required "--realm" (o.realm <|> settings.realm) with
        | error e => rfl
        | ok realm =>
          cases Roster.ofFile o.csv (h.read o.csv) with
          | error e => rfl
          | ok records => rfl

/-- A plan has the settings that were loaded. -/
theorem settings_of_plan {plan : Plan} (hload : Settings.load h o.config = .ok settings)
    (hplan : o.plan h = .ok plan) : plan.settings = settings := by
  have henv : o.env ≠ .prod := by
    intro hprod
    rw [plan_of_production hprod] at hplan
    cases hplan
  rcases plan_cases (h := h) henv with ⟨e, herror, _⟩ | ⟨found, hfound, _⟩
  · rw [hplan] at herror
    cases herror
  · obtain rfl : found = plan := by
      have hok := plan_of_planned henv hfound
      rw [hplan] at hok
      cases hok
      rfl
    have hsettings := hfound.settings
    rw [hload] at hsettings
    cases hsettings
    rfl

/-- The plan for chat accounts is the same, on either backend. -/
theorem chatPlan_filledFrom (hsame : SameButSettings o h h') :
    (o.filledFrom settings config).chatPlan h' .unset = o.chatPlan h settings := by
  have hbackend : (o.filledFrom settings config).backendOf .unset = o.backendOf settings :=
    congrArg (Option.getD · Chat.Backend.script)
      (orElse_absent (o.backend <|> settings.chat.backend))
  rw [chatPlan, chatPlan, hbackend]
  cases o.backendOf settings with
  | script =>
    have hroot : ((o.repository <|> settings.repository) <|> Settings.unset.repository)
        = (o.repository <|> settings.repository) := orElse_absent _
    have hresolve : ∀ named, Repository.resolve h' named = Repository.resolve h named := by
      intro named
      cases named <;> simp only [Repository.resolve, hsame.directory, hsame.executable]
    simp only [filledFrom, hroot, hresolve]
  | synapse =>
    have hurl : ((o.synapseUrl <|> settings.chat.synapse.baseUrl)
          <|> Settings.unset.chat.synapse.baseUrl)
        = (o.synapseUrl <|> settings.chat.synapse.baseUrl) := orElse_absent _
    have hname : ((o.serverName <|> settings.chat.synapse.serverName)
          <|> Settings.unset.chat.synapse.serverName)
        = (o.serverName <|> settings.chat.synapse.serverName) := orElse_absent _
    simp only [filledFrom, hurl, hname]

/-! ## Runs -/

theorem execute_filledFrom (hload : Settings.load h o.config = .ok settings)
    (hunset : Settings.load h' config = .ok .unset) (hsame : SameButSettings o h h')
    (launcher : Launcher σ) (send : Http.Transport σ) :
    (o.filledFrom settings config).execute h' launcher send = o.execute h launcher send := by
  rw [execute, execute, plan_filledFrom hload hunset hsame]
  cases hplan : o.plan h with
  | error e => rfl
  | ok plan =>
    have hsettings := settings_of_plan hload hplan
    simp only [Except.map, hsettings, chatPlan_filledFrom hsame]
    rfl

/-- A value that is given stays. -/
def Stays {α : Type} (value value' : Option α) : Prop :=
  ∀ a, value = some a → value' = some a

theorem stays_orElse {α : Type} (value fallback : Option α) :
    Stays value (value <|> fallback) := by
  rintro a rfl
  rfl

/-- What options say stands when other options take their place.  Secrets, the roster and the form
of the output are only what they say. -/
structure StandsIn (o o' : Options) : Prop where
  keycloakUrl : Stays o.keycloakUrl o'.keycloakUrl
  realm : Stays o.realm o'.realm
  repository : Stays o.repository o'.repository
  timeout : Stays o.timeout o'.timeout
  backend : Stays o.backend o'.backend
  synapseUrl : Stays o.synapseUrl o'.synapseUrl
  serverName : Stays o.serverName o'.serverName
  secrets : (o'.adminUsername, o'.adminPassword, o'.clientId, o'.clientSecret, o'.synapseToken)
    = (o.adminUsername, o.adminPassword, o.clientId, o.clientSecret, o.synapseToken)
  roster : (o'.env, o'.csv) = (o.env, o.csv)
  output : (o'.format, o'.verbose, o'.quiet) = (o.format, o.verbose, o.quiet)

theorem standsIn_filledFrom (o : Options) (settings : Settings)
    (config : Option String) : o.StandsIn (o.filledFrom settings config) where
  keycloakUrl := stays_orElse _ _
  realm := stays_orElse _ _
  repository := stays_orElse _ _
  timeout := stays_orElse _ _
  backend := stays_orElse _ _
  synapseUrl := stays_orElse _ _
  serverName := stays_orElse _ _
  secrets := rfl
  roster := rfl
  output := rfl

/-- A run with settings is a run without any whose options are filled in from them: it makes the
same requests, over a transport with the same timeout, starts the same programs, reports the same
and ends alike, also where a value is missing from both.  What the options say stands. -/
theorem run_filledFrom (hload : Settings.load h o.config = .ok settings)
    (hunset : Settings.load h' config = .ok .unset) (hsame : SameButSettings o h h')
    (launcher : Launcher σ) (connect : Option Nat → Http.Transport σ) :
    o.runOver h launcher connect = (o.filledFrom settings config).runOver h' launcher connect ∧
      o.StandsIn (o.filledFrom settings config) := by
  have htimeout : (o.filledFrom settings config).timeoutOf .unset = o.timeoutOf settings :=
    orElse_absent (o.timeout <|> settings.timeout)
  have hempty : (o.filledFrom settings config).settingsOf h' = .unset := settingsOf_of_load hunset
  refine ⟨?_, standsIn_filledFrom o settings config⟩
  rw [runOver, runOver, settingsOf_of_load hload, hempty, htimeout]
  rw [run, run, execute_filledFrom hload hunset hsame]
  rfl

/-- A host with the same roster and a settings file. -/
def settingsFile (text : String) : Host where
  bindings := []
  directory := .ok "/"
  executable := .ok "/bin/onboarding"
  accountHome := some "/root"
  has path := path = "/users.csv" ∨ path = "/settings.yaml"
  read path :=
    if path = "/users.csv" then .ok [97, 44, 98, 10]
    else if path = "/settings.yaml" then .ok (Utf8.encode text.toList)
    else .error .notFound

/-- Options that leave the realm and the timeout to the settings. -/
def withoutRealm : Options :=
  { oneRecord with config := some "/settings.yaml", realm := none }

/-- Settings that name another Keycloak too, which the options do not want. -/
def otherKeycloak : Settings :=
  { Settings.unset with keycloakUrl := some "http://other", realm := some "dev", timeout := some 5 }

theorem run_filledFrom_otherKeycloak :
    let h := settingsFile "kc_base_url: http://other\nrealm: dev\nhttp_timeout_secs: 5\n"
    let connect (_ : Option Nat) : Http.Transport Unit := fun _ => pure ⟨401, [], []⟩
    Settings.load h withoutRealm.config = .ok otherKeycloak ∧
      Settings.load oneFile none = .ok .unset ∧ withoutRealm.SameButSettings h oneFile ∧
      withoutRealm.runOver h noPrograms connect
        = (withoutRealm.filledFrom otherKeycloak none).runOver oneFile noPrograms connect := by
  intro h connect
  have hload : Settings.load h withoutRealm.config = .ok otherKeycloak := by decide +kernel
  have hunset : Settings.load oneFile none = .ok .unset := by decide +kernel
  have hsame : withoutRealm.SameButSettings h oneFile := ⟨rfl, rfl, rfl⟩
  exact ⟨hload, hunset, hsame, (run_filledFrom hload hunset hsame noPrograms connect).1⟩

end CommandLine.Options

end Onboarding
