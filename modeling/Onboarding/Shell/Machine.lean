import Onboarding.ExitStatus
import Onboarding.Sandbox.Files
import Onboarding.Shell.Command

/-!
# The state of a shell

What a shell keeps while it runs, and the small steps on it that need no command.
-/

namespace Onboarding

namespace Shell

open Sandbox (Place Files)

/-! ## Octets -/

/-- The octets of shell text. -/
def Chars.toBytes (text : Chars) : Bytes :=
  text.map fun c => UInt8.ofNat c.toNat

/-- Octets as shell text. -/
def ofBytes (octets : Bytes) : Chars :=
  octets.map fun b => Char.ofNat b.toNat

/-- A string as shell text. -/
def ofString (s : String) : Chars :=
  ofBytes (Utf8.ofString s)

/-- Shell text as a string, for names of files. -/
def Chars.toPath (text : Chars) : String :=
  Utf8.toStringLossy (Chars.toBytes text)

/-! ## State -/

/-- Where a descriptor writes. -/
inductive Target where
  | buffer (number : Nat)
  | file (place : Place)
  | void

/-- The state of a shell.  Buffer 0 takes what it writes as output, buffer 1 its complaints, and
further ones what commands inside words write; each holds its last character first. -/
structure Machine where
  files : Files
  here : Place
  name : Chars
  arguments : List Chars
  bindings : List (Chars × Chars)
  exported : List Chars
  functions : List (Chars × Command)
  traps : List (Nat × Chars)
  status : Nat
  /-- The status of the last command inside a word of the current command. -/
  inner : Option Nat
  line : Nat
  input : Chars
  descriptors : List (Nat × Target)
  buffers : List Chars
  exitOnFailure : Bool
  refuseUnset : Bool
  trace : Bool

/-- Why commands stop before their end. -/
inductive Stop where
  | exit
  | killed (signal : Nat)
  | leave (loops : Nat)
  | again (loops : Nat)
  | back
  deriving DecidableEq

/-- A step of a shell. -/
abbrev Run : Type → Type :=
  ExceptT Stop (StateM Machine)

/-- The number of the process. -/
def processId : Nat :=
  4242

namespace Machine

/-- A shell that begins, in a directory, with exported variables. -/
def begin (files : Files) (here : Place) (bindings : List (Chars × Chars)) (name : Chars)
    (arguments : List Chars) : Machine where
  files := files
  here := here
  name := name
  arguments := arguments
  bindings := bindings
  exported := bindings.map (·.1)
  functions := []
  traps := []
  status := 0
  inner := none
  line := 1
  input := []
  descriptors := [(1, .buffer 0), (2, .buffer 1)]
  buffers := [[], []]
  exitOnFailure := false
  refuseUnset := false
  trace := false

/-- The machine with text written to a target. -/
def writeTo (m : Machine) (target : Target) (text : Chars) : Machine :=
  match target with
  | .buffer n => { m with buffers := m.buffers.modify n (text.reverse ++ ·) }
  | .file place => { m with files := m.files.append place (Chars.toBytes text) }
  | .void => m

/-- The machine with text written to a descriptor. -/
def write (m : Machine) (descriptor : Nat) (text : Chars) : Machine :=
  match m.descriptors.lookup descriptor with
  | some target => m.writeTo target text
  | none => m

/-- The machine with a descriptor that writes elsewhere. -/
def connect (m : Machine) (descriptor : Nat) (target : Target) : Machine :=
  { m with descriptors := (descriptor, target) :: m.descriptors.filter (·.1 != descriptor) }

/-- The machine with a variable set. -/
def assign (m : Machine) (name value : Chars) : Machine :=
  { m with bindings := (name, value) :: m.bindings.filter (·.1 != name) }

/-- The machine after an option of the shell. -/
def option (m : Machine) (on : Bool) : Char → Machine
  | 'e' => { m with exitOnFailure := on }
  | 'u' => { m with refuseUnset := on }
  | 'x' => { m with trace := on }
  | _ => m

/-- The directory as text. -/
def directory (m : Machine) : Chars :=
  ofString ("/" ++ "/".intercalate m.here)

/-- The value of a parameter, when it is set. -/
def value? (m : Machine) (name : Chars) : Option Chars :=
  match name with
  | ['#'] => some (Nat.toDigits 10 m.arguments.length)
  | ['?'] => some (Nat.toDigits 10 m.status)
  | ['$'] => some (Nat.toDigits 10 processId)
  | ['-'] => some []
  | ['!'] => none
  | ['0'] => some m.name
  | ['@'] | ['*'] =>
    if m.arguments.isEmpty then none else some ([' '].intercalate m.arguments)
  | _ =>
    if name.all Char.isDigit then
      match Nat.ofDigitChars 10 name 0 with
      | 0 => some m.name
      | n + 1 => m.arguments[n]?
    else m.bindings.lookup name

end Machine

namespace Run

/-- Writes to a descriptor. -/
def write (descriptor : Nat) (text : Chars) : Run Unit :=
  modify (·.write descriptor text)

/-- Sets the status. -/
def status (n : Nat) : Run Unit :=
  modify fun m => { m with status := n }

/-- A complaint of the shell. -/
def complain (text : Chars) : Run Unit := do
  let m ← get
  write 2 (m.name ++ ofString (": " ++ toString m.line ++ ": ") ++ text ++ ['\n'])

/-- A complaint and a status. -/
def fail (n : Nat) (text : Chars) : Run Unit := do
  complain text
  status n

/-- The end of the shell with a status. -/
def exit {α : Type} (n : Nat) : Run α := do
  status n
  throw .exit

/-- What stopped a run, when something did. -/
def attempt (x : Run Unit) : Run (Option Stop) := do
  try
    x
    return none
  catch stop => return some stop

/-- A run by a shell of its own, of which only files, output, input and status remain. -/
def detached (x : Run Unit) : Run Unit := do
  let before ← get
  let stop ← attempt x
  modify fun after =>
    { before with
      files := after.files, buffers := after.buffers, status := after.status,
      input := after.input }
  match stop with
  | some (.killed signal) => throw (.killed signal)
  | _ => return ()

/-- What a run by a shell of its own writes. -/
def captured (x : Run Unit) : Run Chars := do
  let before ← get
  let number := before.buffers.length
  set { before.connect 1 (.buffer number) with buffers := before.buffers ++ [[]] }
  let stop ← attempt (detached x)
  let after ← get
  set { after with buffers := after.buffers.take number, descriptors := before.descriptors }
  match stop with
  | some stop => throw stop
  | none => return (after.buffers.getD number []).reverse

/-- A run after which descriptors and input are as before. -/
def restored (x : Run Unit) : Run Unit := do
  let before ← get
  let stop ← attempt x
  modify fun after => { after with descriptors := before.descriptors, input := before.input }
  match stop with
  | some stop => throw stop
  | none => return ()

end Run

end Shell

end Onboarding
