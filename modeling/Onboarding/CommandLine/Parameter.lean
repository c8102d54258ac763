import Onboarding.Chat.Backend
import Onboarding.SummaryFormat
import Onboarding.Text.Numeral

/-!
# Parameters

What can be given on the command line: parameters, which take a value, and switches, which take
none.  Some parameters can be given by a variable instead; the command line wins.
-/

namespace Onboarding

namespace CommandLine

/-! ## Parameters -/

/-- A parameter, which takes a value. -/
inductive Parameter where
  | env
  | csv
  | kcBaseUrl
  | realm
  | kcAdminUsername
  | kcAdminPassword
  | kcAdminClientId
  | kcAdminClientSecret
  | repoRoot
  | config
  | chatBackend
  | synapseUrl
  | synapseServerName
  | synapseAdminToken
  | httpTimeoutSecs
  | summaryFormat
  deriving DecidableEq

/-- What the value of a parameter may be. -/
inductive Form where
  /-- One of some names. -/
  | choice (names : List String)
  /-- A path, which is not empty. -/
  | path
  | text
  /-- A number of seconds that fits in 64 bits. -/
  | seconds

/-- The names of a choice. -/
def choiceNames (α : Type) [Choice α] : List String :=
  (Choice.all : List α).map Choice.name

namespace Parameter

/-- All parameters, in the order in which they are explained. -/
def all : List Parameter :=
  [.env, .csv, .kcBaseUrl, .realm, .kcAdminUsername, .kcAdminPassword, .kcAdminClientId,
    .kcAdminClientSecret, .repoRoot, .config, .chatBackend, .synapseUrl, .synapseServerName,
    .synapseAdminToken, .httpTimeoutSecs, .summaryFormat]

/-- The name behind two hyphens. -/
def name : Parameter → String
  | env => "env"
  | csv => "csv"
  | kcBaseUrl => "kc-base-url"
  | realm => "realm"
  | kcAdminUsername => "kc-admin-username"
  | kcAdminPassword => "kc-admin-password"
  | kcAdminClientId => "kc-admin-client-id"
  | kcAdminClientSecret => "kc-admin-client-secret"
  | repoRoot => "repo-root"
  | config => "config"
  | chatBackend => "chat-backend"
  | synapseUrl => "synapse-url"
  | synapseServerName => "synapse-server-name"
  | synapseAdminToken => "synapse-admin-token"
  | httpTimeoutSecs => "http-timeout-secs"
  | summaryFormat => "summary-format"

/-- What the value may be. -/
def form : Parameter → Form
  | env => .choice (choiceNames Environment)
  | chatBackend => .choice (choiceNames Chat.Backend)
  | summaryFormat => .choice (choiceNames SummaryFormat)
  | csv | repoRoot | config => .path
  | httpTimeoutSecs => .seconds
  | _ => .text

/-- The variable that gives the value where the command line does not. -/
def source? : Parameter → Option String
  | env => some "PROVISION_ENV"
  | csv => some "PROVISION_CSV"
  | kcBaseUrl => some "KEYCLOAK_BASE_URL"
  | realm => some "KEYCLOAK_REALM"
  | kcAdminUsername => some "KEYCLOAK_ADMIN_USERNAME"
  | kcAdminPassword => some "KEYCLOAK_ADMIN_PASSWORD"
  | kcAdminClientId => some "KEYCLOAK_ADMIN_CLIENT_ID"
  | kcAdminClientSecret => some "KEYCLOAK_ADMIN_CLIENT_SECRET"
  | repoRoot => some "PROVISION_REPO_ROOT"
  | synapseUrl => some "SYNAPSE_URL"
  | synapseServerName => some "SYNAPSE_SERVER_NAME"
  | synapseAdminToken => some "SYNAPSE_ADMIN_TOKEN"
  | config | chatBackend | httpTimeoutSecs | summaryFormat => none

/-- Whether the value of the variable is not shown. -/
def isSecret : Parameter → Bool
  | kcAdminPassword | kcAdminClientSecret | synapseAdminToken => true
  | _ => false

/-- The value without any given. -/
def usual? : Parameter → Option String
  | env => some Environment.dev.name
  | summaryFormat => some SummaryFormat.text.name
  | _ => none

/-- The parameter of a name. -/
def ofName? (text : String) : Option Parameter :=
  all.find? (·.name == text)

end Parameter

/-- Whether a value has a form. -/
def Form.accepts : Form → String → Bool
  | choice names, value => names.contains value
  | path, value => !value.isEmpty
  | text, _ => true
  | seconds, value =>
    let digits :=
      match value.toList with
      | '+' :: digits => digits
      | digits => digits
    (Numeral.read? 10 digits).any (· < UInt64.size)

/-! ## Switches -/

/-- A switch, which takes no value. -/
inductive Switch where
  | verbose
  | quiet
  | help
  | version
  deriving DecidableEq

namespace Switch

/-- All switches, in the order in which they are explained. -/
def all : List Switch :=
  [.verbose, .quiet, .help, .version]

/-- The name behind two hyphens. -/
def name : Switch → String
  | verbose => "verbose"
  | quiet => "quiet"
  | help => "help"
  | version => "version"

/-- The letter behind one hyphen. -/
def letter : Switch → Char
  | verbose => 'v'
  | quiet => 'q'
  | help => 'h'
  | version => 'V'

/-- The switch of a name. -/
def ofName? (text : String) : Option Switch :=
  all.find? (·.name == text)

/-- The switch of a letter. -/
def ofLetter? (c : Char) : Option Switch :=
  all.find? (·.letter == c)

end Switch

end CommandLine

end Onboarding
