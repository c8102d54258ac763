import Onboarding.CommandLine.Parameter

/-!
# Help

What is printed about the program.  Variables are shown with their values, secret ones without.
-/

namespace Onboarding

namespace CommandLine

/-- The name of the program. -/
def programName : String :=
  "provision-users"

/-- What is printed about the version. -/
def versionText : String :=
  programName ++ " 0.1.0\n"

namespace Parameter

/-- What a parameter is for. -/
def purpose : Parameter → String
  | env => "Target environment (refuses prod)"
  | csv => "Path to CSV file (username,password)"
  | kcBaseUrl => "Keycloak base URL, e.g., https://auth.example.org"
  | realm => "Keycloak realm name"
  | kcAdminUsername => "Keycloak admin username"
  | kcAdminPassword => "Keycloak admin password"
  | kcAdminClientId => "Keycloak admin client id (client credentials)"
  | kcAdminClientSecret => "Keycloak admin client secret"
  | repoRoot => "Repository root holding create-matrix-user.sh and kubeconfig.<env>.yaml"
  | config => "Settings file (default: <config dir>/settings.yaml)"
  | chatBackend => "Chat account backend (default: script)"
  | synapseUrl => "Synapse base URL for --chat-backend synapse"
  | synapseServerName => "Matrix server name, e.g., example.org"
  | synapseAdminToken => "Synapse admin access token"
  | httpTimeoutSecs => "Per-request HTTP timeout in seconds (default: none)"
  | summaryFormat => ""

/-- The sign for a value: the name of the parameter in capitals. -/
def valueSign (p : Parameter) : String :=
  String.ofList (p.name.toList.map fun c => if c = '-' then '_' else c.toUpper)

/-- What is added about the variable, the usual value and the names to choose from. -/
def notes (bindings : String → Option String) (p : Parameter) : List String :=
  let source :=
    match p.source? with
    | some name =>
      if p.isSecret then ["[env: " ++ name ++ "]"]
      else ["[env: " ++ name ++ "=" ++ (bindings name).getD "" ++ "]"]
    | none => []
  let usual :=
    match p.usual? with
    | some value => ["[default: " ++ value ++ "]"]
    | none => []
  let names :=
    match p.form with
    | .choice names => ["[possible values: " ++ ", ".intercalate names ++ "]"]
    | _ => []
  source ++ usual ++ names

/-- Two lines about a parameter. -/
def help (bindings : String → Option String) (p : Parameter) : String :=
  let words := (if p.purpose.isEmpty then [] else [p.purpose]) ++ p.notes bindings
  "      --" ++ p.name ++ " <" ++ p.valueSign ++ ">\n          "
    ++ (" ".intercalate words).replace "\n" "\n          " ++ "\n"

end Parameter

namespace Switch

/-- What a switch is for. -/
def purpose : Switch → String
  | verbose | quiet => ""
  | help => "Print help"
  | version => "Print version"

/-- Two lines about a switch. -/
def explanation (s : Switch) : String :=
  "  -" ++ s.letter.toString ++ ", --" ++ s.name ++ "\n          " ++ s.purpose ++ "\n"

end Switch

/-- What is printed about the whole program. -/
def helpText (bindings : String → Option String) : String :=
  "Provision users in Keycloak and Matrix (Synapse) from CSV\n\n"
    ++ "Usage: " ++ programName ++ " [OPTIONS] --csv <CSV>\n\n"
    ++ "Options:\n"
    ++ String.join (Parameter.all.map (·.help bindings))
    ++ String.join (Switch.all.map Switch.explanation)
    ++ "\nCredentials:\n"
    ++ "  either --kc-admin-username/--kc-admin-password\n"
    ++ "  or --kc-admin-client-id/--kc-admin-client-secret\n\n"
    ++ "Exit codes:\n"
    ++ "  0 success, 1 prod refused, 2 missing credentials or configuration,\n"
    ++ "  3 token request failed, 4 empty token, 5 completed with failures\n"

end CommandLine

end Onboarding
