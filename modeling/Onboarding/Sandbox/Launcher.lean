import Onboarding.Chat.Script
import Onboarding.Host
import Onboarding.Shell.Interpreter

/-!
# Sandboxes

A system to try a run in: a file tree, a working directory and variables.  Its programs are those
of the system and the scripts in the tree, which the shell interprets; a script can change the tree
and nothing else.

A run takes any `Launcher`, and what is shown of runs is shown for all of them.  This one makes a
run with scripts something that can be carried out and looked at, without a system below it.
-/

namespace Onboarding

/-- A file tree, a working directory in it, and the variables of a process. -/
structure Sandbox where
  files : Sandbox.Files
  here : Sandbox.Place
  bindings : List (String × String)

namespace Sandbox

/-- The programs that come with the system, and the device that is always there. -/
def systemFiles : Files :=
  let programs := ["sh", "dash", "bash", "env", "true", "false", "cat"].flatMap fun name =>
    [(["bin", name], Entry.program name), (["usr", "bin", name], Entry.program name)]
  let places := programs ++ [(["dev", "null"], .void)]
  let files : Files := places.foldl (fun files e => Files.putBelow files e.1 e.2) ⟨[]⟩
  files.putDirectories [] ["tmp"]

/-- The working directory as a path. -/
def directory (s : Sandbox) : String :=
  "/" ++ "/".intercalate s.here

/-- What a process sees in a sandbox, which runs a program of its own path. -/
def host (s : Sandbox) (executable : String) : Host where
  bindings := s.bindings
  directory := .ok s.directory
  executable := .ok executable
  accountHome := some "/root"
  has path := s.files.exists? s.here path
  read path := s.files.read s.here path

/-- Whether a string can be handed to a program. -/
def isArgument (s : String) : Bool :=
  !s.toList.contains '\x00'

/-- The content of the program at a path and what runs it. -/
def executable (s : Sandbox) (path : String) :
    Except SystemError (Bytes × String × Option Shell.Chars) :=
  if !path.toList.contains '/' then .error .notFound
  else
    match s.files.find s.here path with
    | .error cause => .error cause
    | .ok (_, .file content true) =>
      match Shell.interpreter? content with
      | none => .error .notExecutable
      | some (program, argument) =>
        match s.files.find s.here (Shell.Chars.toPath program) with
        | .ok (_, .program name) => .ok (content, name, argument)
        | .ok _ => .error .permissionDenied
        | .error cause => .error cause
    | .ok (_, .program name) => .ok ([], name, none)
    | .ok _ => .error .permissionDenied

/-- Starts a program and waits for its end. -/
def start (s : Sandbox) (i : Invocation) : Except SystemError Finished × Sandbox :=
  let strings := i.program :: i.arguments ++ i.bindings.flatMap fun v => [v.1, v.2]
  if !strings.all isArgument then (.error .nulInArgument, s)
  else
    match s.executable i.program with
    | .error cause => (.error cause, s)
    | .ok (content, program, argument) =>
      let bindings := i.bindings ++ s.bindings.filter fun v => !i.bindings.any (·.1 == v.1)
      let machine := Shell.Machine.begin s.files s.here
        (bindings.map fun v => (Shell.ofString v.1, Shell.ofString v.2))
        (Shell.ofString i.program) (i.arguments.map Shell.ofString)
      let (status, after) := Shell.interpret machine program argument content
      let complaints := Shell.Chars.toBytes (after.buffers.getD 1 []).reverse
      (.ok ⟨status, complaints⟩, { s with files := after.files })

/-- The place where a sandbox starts programs. -/
def launcher : Launcher Sandbox where
  isFile path s := s.files.isFile s.here path
  start i := Act.ofFunction fun s => s.start i

end Sandbox

end Onboarding
