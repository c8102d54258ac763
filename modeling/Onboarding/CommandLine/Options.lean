import Onboarding.CommandLine.Help
import Onboarding.Host

/-!
# Options

The arguments of the program as options.  `parse` reads them from left to right.  A parameter
stays open until the next one, or a switch, or the end, and only then its value is looked at;
an argument that means nothing is refused at once.
-/

namespace Onboarding

namespace CommandLine

/-! ## Arguments -/

/-- An argument by its hyphens. -/
inductive Argument where
  /-- Two hyphens, after which no option follows. -/
  | ending
  | long (name : String) (value : Option String)
  | short (letters : List Char)
  | bare (text : String)
  deriving DecidableEq

/-- An argument; a single hyphen is one without hyphens. -/
def Argument.ofText (text : String) : Argument :=
  match text.toList with
  | ['-', '-'] => .ending
  | '-' :: '-' :: rest =>
    let name := rest.takeWhile (· != '=')
    let value := if name.length < rest.length then some (rest.drop (name.length + 1)) else none
    .long (String.ofList name) (value.map String.ofList)
  | '-' :: c :: rest => .short (c :: rest)
  | _ => .bare text

/-! ## Refusals -/

/-- Why arguments are refused. -/
inductive Refusal where
  | missingRequired
  /-- No value, an empty path, or a name that is none of the choices. -/
  | invalidValue
  /-- A value that is no number. -/
  | notANumber
  | unknownArgument
  /-- An option that is given twice. -/
  | repeated
  /-- A value for a switch. -/
  | unneededValue
  deriving DecidableEq

/-- Why arguments give no options. -/
inductive Stop where
  | refused (refusal : Refusal)
  | help
  | version
  deriving DecidableEq

/-- The exit code of the process. -/
def Stop.exitCode : Stop → Nat
  | refused _ => 2
  | help | version => 0

/-! ## Reading -/

/-- The options read so far, and the parameter that is open with the value that it may have. -/
structure Reading where
  values : List (Parameter × String)
  switches : List Switch
  pending : Option (Parameter × Option String)

namespace Reading

/-- Nothing read. -/
def start : Reading :=
  ⟨[], [], none⟩

/-- Why a value is not one of a parameter. -/
def valueRefusal (p : Parameter) : Refusal :=
  match p.form with
  | .seconds => .notANumber
  | _ => .invalidValue

/-- The reading with a value of a parameter. -/
def add (r : Reading) (p : Parameter) (value : String) : Except Stop Reading :=
  if p.form.accepts value then .ok { r with values := r.values ++ [(p, value)] }
  else .error (.refused (valueRefusal p))

/-- Whether a parameter has its value. -/
def has (r : Reading) (p : Parameter) : Bool :=
  r.values.any (·.1 = p)

/-- The reading with no parameter open. -/
def settle (r : Reading) : Except Stop Reading :=
  match r.pending with
  | none => .ok r
  | some (_, none) => .error (.refused .invalidValue)
  | some (p, some value) =>
    if r.has p then .error (.refused .repeated) else { r with pending := none }.add p value

/-- The reading with a parameter open. -/
def openParameter (r : Reading) (p : Parameter) (value : Option String) : Except Stop Reading := do
  let r ← r.settle
  let r := { r with pending := some (p, value) }
  if value.isSome then r.settle else return r

/-- The reading after a switch. -/
def turn (r : Reading) (s : Switch) : Except Stop Reading := do
  let r ← r.settle
  match s with
  | .help => throw .help
  | .version => throw .version
  | s =>
    if r.switches.contains s then throw (.refused .repeated)
    return { r with switches := r.switches ++ [s] }

/-- The reading after the letters behind one hyphen. -/
def turnAll (r : Reading) : List Char → Except Stop Reading
  | [] => .ok r
  | c :: rest =>
    match Switch.ofLetter? c with
    | none => .error (.refused .unknownArgument)
    | some s =>
      match r.turn s with
      | .error stop => .error stop
      | .ok r => r.turnAll rest

/-- The reading after a name behind two hyphens. -/
def named (r : Reading) (name : String) (value : Option String) : Except Stop Reading :=
  match Parameter.ofName? name, Switch.ofName? name with
  | some p, _ => r.openParameter p value
  | none, some s => if value.isSome then .error (.refused .unneededValue) else r.turn s
  | none, none => .error (.refused .unknownArgument)

/-- The reading after an argument without hyphens, which has to be a value. -/
def bare (r : Reading) (text : String) : Except Stop Reading :=
  match r.pending with
  | some (p, none) => .ok { r with pending := some (p, some text) }
  | _ => .error (.refused .unknownArgument)

/-- The reading after arguments; none may follow two hyphens. -/
def run (r : Reading) : List Argument → Except Stop Reading
  | [] => r.settle
  | .ending :: [] => r.settle
  | .ending :: _ :: _ => .error (.refused .unknownArgument)
  | a :: rest => do
    let r ← match a with
      | .long name value => r.named name value
      | .short letters => r.turnAll letters
      | .bare text => r.bare text
      | .ending => .ok r
    r.run rest

/-- The reading with the values of variables for parameters that have none. -/
def addSources (bindings : String → Option String) :
    List Parameter → Reading → Except Stop Reading
  | [], r => .ok r
  | p :: rest, r =>
    match if r.has p then none else p.source?.bind bindings with
    | none => addSources bindings rest r
    | some value =>
      match r.add p value with
      | .error stop => .error stop
      | .ok r => addSources bindings rest r

/-- The value of a parameter. -/
def get? (r : Reading) (p : Parameter) : Option String :=
  r.values.lookup p

end Reading

/-! ## Options -/

/-- What a run was asked for. -/
structure Options where
  env : Environment
  csv : String
  keycloakUrl : Option String
  realm : Option String
  adminUsername : Option String
  adminPassword : Option String
  clientId : Option String
  clientSecret : Option String
  repository : Option String
  config : Option String
  backend : Option Chat.Backend
  synapseUrl : Option String
  serverName : Option String
  synapseToken : Option String
  timeout : Option Nat
  format : SummaryFormat
  verbose : Bool
  quiet : Bool

/-- A number of seconds, perhaps with a plus sign. -/
def seconds? (text : String) : Option Nat :=
  match text.toList with
  | '+' :: digits => Numeral.read? 10 digits
  | digits => Numeral.read? 10 digits

/-- The options of a reading; the roster has to be named. -/
def Options.ofReading (r : Reading) : Except Stop Options :=
  match r.get? .csv with
  | none => .error (.refused .missingRequired)
  | some csv =>
    .ok {
      env := ((r.get? .env).bind (Choice.ofName? false)).getD .dev
      csv
      keycloakUrl := r.get? .kcBaseUrl
      realm := r.get? .realm
      adminUsername := r.get? .kcAdminUsername
      adminPassword := r.get? .kcAdminPassword
      clientId := r.get? .kcAdminClientId
      clientSecret := r.get? .kcAdminClientSecret
      repository := r.get? .repoRoot
      config := r.get? .config
      backend := (r.get? .chatBackend).bind (Choice.ofName? false)
      synapseUrl := r.get? .synapseUrl
      serverName := r.get? .synapseServerName
      synapseToken := r.get? .synapseAdminToken
      timeout := (r.get? .httpTimeoutSecs).bind seconds?
      format := ((r.get? .summaryFormat).bind (Choice.ofName? false)).getD .text
      verbose := r.switches.contains .verbose
      quiet := r.switches.contains .quiet
    }

/-- The options that arguments and variables give. -/
def parse (h : Host) (arguments : List String) : Except Stop Options := do
  let r ← Reading.start.run (arguments.map Argument.ofText)
  let r ← Reading.addSources h.get? Parameter.all r
  Options.ofReading r

/-- What is printed where arguments give no options but are not refused. -/
def Stop.output (h : Host) : Stop → String
  | refused _ => ""
  | help => helpText h.get?
  | version => versionText

end CommandLine

end Onboarding
