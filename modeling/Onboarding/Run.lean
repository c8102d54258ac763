import Onboarding.Chat.Script
import Onboarding.Chat.Synapse
import Onboarding.CommandLine.Options
import Onboarding.Identity.Keycloak
import Onboarding.Log
import Onboarding.Settings.File

/-!
# Runs

A whole run: what was asked for, checked in a fixed order, then a token, then the records.  All
checks come before the first request.  `Plan` is what the checks come to.
-/

namespace Onboarding

open CommandLine (Options)

/-! ## Plans -/

/-- Where chat accounts are to be made. -/
inductive ChatPlan where
  | script (root : String)
  | synapse (baseUrl serverName : String) (token : Secret)
  deriving DecidableEq

/-- What a run is to do. -/
structure Plan where
  env : Environment
  credentials : Credentials
  keycloakUrl : String
  realm : String
  records : List Record
  settings : Settings

/-- A value, or an error that says what is required. -/
def required {α : Type} (name : String) : Option α → Except RunError α
  | some a => .ok a
  | none => .error (.config (name ++ " is required"))

namespace CommandLine.Options

/-- The checks that come first: the environment, the settings, the credentials, the place of
Keycloak and the roster. -/
def plan (o : Options) (h : Host) : Except RunError Plan := do
  RunError.guardProduction o.env
  let settings ← (Settings.load h o.config).mapError .settings
  let credentials ← Credentials.select o.adminUsername o.adminPassword o.clientId o.clientSecret
  let keycloakUrl ← required "--kc-base-url" (o.keycloakUrl <|> settings.keycloakUrl)
  let realm ← required "--realm" (o.realm <|> settings.realm)
  let records ← (Roster.ofFile o.csv (h.read o.csv)).mapError (.config ·.message)
  return ⟨o.env, credentials, keycloakUrl, realm, records, settings⟩

/-- How chat accounts are made: as the options say, else as the settings say, else by script. -/
def backendOf (o : Options) (settings : Settings) : Chat.Backend :=
  (o.backend <|> settings.chat.backend).getD .script

/-- What is needed for chat accounts. -/
def chatPlan (o : Options) (h : Host) (settings : Settings) : Except RunError ChatPlan :=
  match o.backendOf settings with
  | .script =>
    ((Repository.resolve h (o.repository <|> settings.repository)).mapError
      (.config ·.message)).map .script
  | .synapse => do
    let synapse := settings.chat.synapse
    let baseUrl ← required "--synapse-url" (o.synapseUrl <|> synapse.baseUrl)
    let serverName ← required "--synapse-server-name" (o.serverName <|> synapse.serverName)
    let token ← required "--synapse-admin-token" o.synapseToken
    return .synapse baseUrl serverName ⟨token⟩

/-- For how many seconds a request may last. -/
def timeoutOf (o : Options) (settings : Settings) : Option Nat :=
  o.timeout <|> settings.timeout

end CommandLine.Options

/-! ## Reports -/

/-- What a run reports. -/
inductive RunReport where
  | usingScript (root : String)
  | usingSynapse (baseUrl serverName : String)
  | starting (env : Environment) (realm grantType : String) (records : Nat)
  | event (event : Event)
  | stopped (error : RunError)
  deriving DecidableEq

namespace RunReport

/-- The report of a plan for chat accounts. -/
def ofChat : ChatPlan → RunReport
  | .script root => usingScript root
  | .synapse baseUrl serverName _ => usingSynapse baseUrl serverName

/-- The log line of a report. -/
def line (w : Wording) : RunReport → Log.Line
  | usingScript root => ⟨.info, "using matrix create script", [("repo_root", root)]⟩
  | usingSynapse baseUrl serverName =>
    ⟨.info, "using synapse admin API", [("synapse", baseUrl), ("server_name", serverName)]⟩
  | starting env realm grantType records =>
    ⟨.info, "starting provisioning run",
      [("env", env.name), ("realm", realm), ("grant_type", grantType),
        ("records", toString records)]⟩
  | event e => Log.ofEvent w e
  | stopped e => ⟨.error, e.message w, []⟩

end RunReport

/-! ## Execution -/

/-- How a run ended: the exit code of the process and what it printed. -/
structure Ending where
  exitCode : Nat
  output : String
  deriving DecidableEq

section

variable {σ : Type}

/-- The chat server of a plan. -/
def ChatPlan.server (launcher : Launcher σ) (send : Http.Transport σ) :
    ChatPlan → Except RunError (Chat σ)
  | script root => .ok (Chat.Script.server root launcher)
  | synapse baseUrl serverName token =>
    (Synapse.make baseUrl serverName token).map fun s => s.server send

/-- Asks for a token and does the records. -/
def Plan.execute (plan : Plan) (keycloak : Keycloak) (chat : Chat σ) (send : Http.Transport σ) :
    Act RunReport σ (Except RunError Tally) := do
  Act.report (.starting plan.env keycloak.realm plan.credentials.grantType plan.records.length)
  let answer ← (keycloak.authenticate send plan.credentials).reportAs (.event ∘ .notice)
  match answer with
  | .error e => return .error e
  | .ok session =>
    let servers : Servers σ := ⟨keycloak.server send session, chat⟩
    let tally ← (servers.run plan.env plan.records).reportAs .event
    return .ok tally

namespace CommandLine.Options

/-- The checks and what follows them. -/
def execute (o : Options) (h : Host) (launcher : Launcher σ) (send : Http.Transport σ) :
    Act RunReport σ (Except RunError Tally) :=
  match o.plan h with
  | .error e => return .error e
  | .ok plan =>
    match o.chatPlan h plan.settings with
    | .error e => return .error e
    | .ok chatPlan => do
      Act.report (.ofChat chatPlan)
      match chatPlan.server launcher send, Keycloak.make plan.keycloakUrl plan.realm with
      | .error e, _ => return .error e
      | .ok _, .error e => return .error e
      | .ok chat, .ok keycloak => plan.execute keycloak chat send

/-- A whole run. -/
def run (o : Options) (h : Host) (launcher : Launcher σ) (send : Http.Transport σ) :
    Act RunReport σ Ending := do
  match ← o.execute h launcher send with
  | .ok tally => return ⟨tally.summary.exitCode, o.format.render tally.summary⟩
  | .error e =>
    Act.report (.stopped e)
    return ⟨e.exitCode, ""⟩

end CommandLine.Options

end

end Onboarding
