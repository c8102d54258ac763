import Onboarding.Run
import Onboarding.Http.Client

/-!
# The program

The outer layer: variables, files, arguments and streams.  It has no network, starts no programs and
does not look accounts up, so requests get no answer, scripts do not run, and a home directory is
one that a variable names; all checks before the first request are those of any other run.
-/

namespace Onboarding

namespace Main

/-- The refusal that an error stands for. -/
def causeOf : IO.Error → SystemError
  | .permissionDenied .. => .permissionDenied
  | .inappropriateType .. => .isADirectory
  | _ => .notFound

/-- What an action comes to. -/
def attempt {α : Type} (action : IO α) : IO (Except SystemError α) := do
  try
    return .ok (← action)
  catch e => return .error (causeOf e)

/-- The variables that a run looks at. -/
def variableNames : List String :=
  CommandLine.Parameter.all.filterMap (·.source?)
    ++ ["HOME", "XDG_CONFIG_HOME", Settings.directoryVariable]

/-- The surroundings of this process, with the content of some files. -/
def host (paths : List String) : IO Host := do
  let bindings ← variableNames.filterMapM fun name => do
    return (← IO.getEnv name).map (name, ·)
  let contents ← paths.mapM fun (path : String) => do
    return (path, ← attempt (return (← IO.FS.readBinFile path).toList))
  let places ← paths.mapM fun (path : String) => do return (path, ← attempt (IO.FS.realPath path))
  return {
    bindings
    directory := ← attempt (return toString (← IO.currentDir))
    executable := ← attempt (return toString (← IO.appPath))
    accountHome := none
    has := fun path => (places.lookup path).any fun place => place.toOption.isSome
    read := fun path => (contents.lookup path).getD (.error .notFound)
  }

/-- A place without programs. -/
def launcher : Launcher Unit where
  isFile _ _ := true
  start _ := Act.done (.error .permissionDenied)

/-- A transport without a network. -/
def send : Http.Transport Unit :=
  Http.Client.transport fun _ s => (.error "no network", s)

/-- What the program says itself where a library would. -/
def wording : Wording where
  settings _ := "not a document of settings"
  grant _ := "not the grant of a token"
  users _ := "not a list of users"
  transport
    | .url url => "not the URL of a web page: " ++ url
    | .header _ name => "header cannot be sent: " ++ name
    | .network text => text
    | .tooManyRedirections => "too many redirections"
    | .misdirected status _ => "redirection cannot be followed, status " ++ toString status
    | .oversized => "body is too long"

/-- Writes the lines of a log that a threshold shows. -/
def writeLog (threshold : Log.Threshold) (lines : List Log.Line) : IO Unit := do
  let errors ← IO.getStderr
  for line in lines do
    if threshold.shows line.level then errors.putStr line.text

end Main

end Onboarding

open Onboarding in
/-- Reads the arguments, does the run, and gives the exit code. -/
def main (arguments : List String) : IO UInt32 := do
  let bare ← Main.host []
  match CommandLine.parse bare arguments with
  | .error stop =>
    IO.print (stop.output bare)
    return UInt32.ofNat stop.exitCode
  | .ok options =>
    let settings := options.config <|> Settings.usualFile? bare
    let host ← Main.host (options.csv :: settings.toList)
    let done := options.run host Main.launcher Main.send ()
    let lines := done.reports.map (RunReport.line Main.wording)
    Main.writeLog (.ofFlags options.verbose options.quiet) lines
    IO.print done.value.output
    return UInt32.ofNat done.value.exitCode
