import Onboarding.Shell.Condition
import Onboarding.Shell.Fields
import Onboarding.Shell.Format

/-!
# Built-in commands

The commands that need no other command: those of the shell itself, and the few programs that
scripts expect on every system.
-/

namespace Onboarding

namespace Shell

namespace Builtin

open Run

/-- A number of decimal digits, or the shell ends. -/
def number (command : String) (text : Chars) : Run Nat :=
  match Numeral.read? 10 text with
  | some n => return n
  | none => do
    complain (ofString (command ++ ": Illegal number: ") ++ text)
    exit 2

/-- The name and the value of a declaration. -/
def declaration (text : Chars) : Chars × Option Chars :=
  let name := text.takeWhile (· != '=')
  (name, if name.length < text.length then some (text.drop (name.length + 1)) else none)

/-- Sets what declarations give a value. -/
def declare (exports : Bool) (arguments : List Chars) : Run Unit := do
  modify fun m => arguments.foldl (fun m argument =>
    let (name, value) := declaration argument
    let m := if exports then { m with exported := name :: m.exported } else m
    value.elim m (m.assign name)) m
  status 0

/-- Options and arguments of the shell. -/
def setOptions : Nat → List Chars → Run Unit
  | 0, _ => return ()
  | _, [] => return ()
  | _, ['-', '-'] :: arguments => modify fun m => { m with arguments := arguments }
  | fuel + 1, ('-' :: letters) :: rest => options fuel true letters rest
  | fuel + 1, ('+' :: letters) :: rest => options fuel false letters rest
  | _, arguments => modify fun m => { m with arguments := arguments }
where
  options (fuel : Nat) (on : Bool) (letters : Chars) (rest : List Chars) : Run Unit := do
    modify fun m => letters.foldl (fun m c => m.option on c) m
    if letters.getLast? = some 'o' then
      match rest with
      | [] => setOptions fuel []
      | name :: rest =>
        match String.ofList name with
        | "errexit" => modify fun m => m.option on 'e'
        | "nounset" => modify fun m => m.option on 'u'
        | "xtrace" => modify fun m => m.option on 'x'
        | "noglob" | "noexec" | "noclobber" | "allexport" | "monitor" | "verbose" | "vi"
        | "emacs" | "notify" | "nolog" | "ignoreeof" => return ()
        | _ =>
          complain (ofString "set: Illegal option -o " ++ name)
          exit 2
        setOptions fuel rest
    else setOptions fuel rest

/-- Splits the next line of the input among names; the last one gets all that is left. -/
def readInto : List Chars → Chars → Machine → Machine
  | [], _, m => m
  | [name], line, m =>
    let line := line.dropWhile Piece.isBlank
    m.assign name (line.reverse.dropWhile Piece.isBlank).reverse
  | name :: more, line, m =>
    let line := line.dropWhile Piece.isBlank
    readInto more (line.dropWhile (!Piece.isBlank ·))
      (m.assign name (line.takeWhile (!Piece.isBlank ·)))

/-- Reads a line of the input. -/
def read (arguments : List Chars) : Run Unit := do
  let names := arguments.filter fun a => a.head? != some '-'
  let m ← get
  let line := m.input.takeWhile (· != '\n')
  let whole := line.length < m.input.length
  set (readInto names line { m with input := m.input.drop (line.length + 1) })
  status (if whole then 0 else 1)

/-- The signal that a name or a number stands for. -/
def signal? (text : Chars) : Option Nat :=
  match Numeral.read? 10 text with
  | some n => some n
  | none =>
    let name := String.ofList text
    if name = "EXIT" then some 0
    else
      match ExitStatus.signalNumber? name with
      | some n => some n
      | none =>
        match text with
        | 'S' :: 'I' :: 'G' :: rest => ExitStatus.signalNumber? (String.ofList rest)
        | _ => none

/-- The signals that end no process. -/
def isHarmless (signal : Nat) : Bool :=
  [0, 17, 18, 19, 20, 21, 22, 23, 28].contains signal

/-- Sets what is done at signals and at the end. -/
def trap : List Chars → Run Unit
  | [] => status 0
  | action :: names => do
    modify fun m => names.foldl (fun m name =>
      match signal? name with
      | some n =>
        let others := m.traps.filter (·.1 != n)
        { m with traps := if action == ['-'] then others else (n, action) :: others }
      | none => m) m
    status 0

/-- Goes to another directory. -/
def changeDirectory (path : Chars) : Run Unit := do
  let m ← get
  match m.files.find m.here (Chars.toPath path) with
  | .ok (place, .directory) =>
    let m := { m with here := place }
    set (m.assign (ofString "PWD") m.directory)
    status 0
  | _ => fail 2 (ofString "cd: can't cd to " ++ path)

/-- A test, whose closing bracket is checked where it has one. -/
def test (bracket : Bool) (arguments : List Chars) : Run Unit := do
  let name := ofString (if bracket then "[: " else "test: ")
  let m ← get
  if bracket && arguments.getLast? != some [']'] then fail 2 (name ++ ofString "missing ]")
  else
    match Condition.holds m (if bracket then arguments.dropLast else arguments) with
    | .ok b => status (if b then 0 else 1)
    | .error e => fail 2 (name ++ e)

/-- What is said when a file cannot be used by a program. -/
def systemText : SystemError → String
  | .notADirectory => "Not a directory"
  | .isADirectory => "Is a directory"
  | .nameTooLong => "File name too long"
  | .permissionDenied => "Permission denied"
  | _ => "No such file or directory"

/-- Writes files one after the other, or the input. -/
def concatenate (arguments : List Chars) : Run Unit := do
  status 0
  for argument in (if arguments.isEmpty then [['-']] else arguments) do
    let m ← get
    if argument == ['-'] then
      write 1 m.input
      modify fun m => { m with input := [] }
    else
      match m.files.read m.here (Chars.toPath argument) with
      | .ok content => write 1 (ofBytes content)
      | .error cause =>
        write 2 (ofString "cat: " ++ argument ++ ofString (": " ++ systemText cause ++ "\n"))
        status 1

/-- Makes directories. -/
def makeDirectories (arguments : List Chars) : Run Unit := do
  status 0
  let parents := arguments.any (· == ['-', 'p'])
  for argument in arguments.filter fun a => a.head? != some '-' do
    let m ← get
    let refuse (text : String) : Run Unit := do
      write 2 (ofString "mkdir: cannot create directory ‘" ++ argument
        ++ ofString ("’: " ++ text ++ "\n"))
      status 1
    match m.files.locate m.here (Chars.toPath argument) with
    | .ok place =>
      if (m.files.entry? place).isSome then
        if parents then pure () else refuse "File exists"
      else set { m with files := m.files.put place .directory }
    | .error cause =>
      if parents then
        let steps := (Path.pieces argument).map (Chars.toPath ·) |>.filter (!·.isEmpty)
        let start := if argument.head? = some '/' then [] else m.here
        set { m with files := m.files.putDirectories start steps }
      else refuse (systemText cause)

/-- Removes files, and directories with what is in them. -/
def removeFiles (arguments : List Chars) : Run Unit := do
  status 0
  let flags := (arguments.filter fun a => a.head? == some '-').flatten
  for argument in arguments.filter fun a => a.head? != some '-' do
    let m ← get
    match m.files.find m.here (Chars.toPath argument) with
    | .ok (place, .directory) =>
      if flags.contains 'r' || flags.contains 'R' then
        set { m with files := ⟨m.files.entries.filter fun e => !place.isPrefixOf e.1⟩ }
      else
        write 2 (ofString "rm: cannot remove '" ++ argument ++ ofString "': Is a directory\n")
        status 1
    | .ok (place, _) => set { m with files := m.files.remove place }
    | .error cause =>
      if flags.contains 'f' then pure ()
      else
        write 2 (ofString "rm: cannot remove '" ++ argument
          ++ ofString ("': " ++ systemText cause ++ "\n"))
        status 1

/-- Makes files that are not there. -/
def touch (arguments : List Chars) : Run Unit := do
  status 0
  for argument in arguments do
    let m ← get
    match m.files.ensure m.here (Chars.toPath argument) with
    | .ok (_, files) => set { m with files := files }
    | .error .isADirectory => pure ()
    | .error cause =>
      write 2 (ofString "touch: cannot touch '" ++ argument
        ++ ofString ("': " ++ systemText cause ++ "\n"))
      status 1

/-- The commands of the shell after which variables that were set for them stay. -/
def isSpecial (name : String) : Bool :=
  [":", ".", "break", "continue", "eval", "exec", "exit", "export", "readonly", "return", "set",
    "shift", "trap", "unset"].contains name

/-- A built-in command; nothing when there is none of this name. -/
def run? (name : String) (arguments : List Chars) : Option (Run Unit) :=
  let first := arguments.head?
  match name with
  | ":" | "true" | "sleep" | "ulimit" | "umask" | "wait" | "chmod" | "sync" => some (status 0)
  | "false" => some (status 1)
  | "echo" => some do
    write 1 (Format.echo arguments)
    status 0
  | "printf" => some do
    match arguments with
    | [] => fail 2 (ofString "printf: usage: printf format [arg ...]")
    | format :: arguments =>
      write 1 (Format.printf format arguments)
      status 0
  | "exit" => some do
    match first with
    | some text => exit ((← number "exit" text) % 256)
    | none => throw .exit
  | "return" => some do
    match first with
    | some text => status ((← number "return" text) % 256)
    | none => pure ()
    throw .back
  | "break" => some do
    let loops ← first.elim (pure 1) (number "break")
    throw (.leave loops)
  | "continue" => some do
    let loops ← first.elim (pure 1) (number "continue")
    throw (.again loops)
  | "shift" => some do
    let count ← first.elim (pure 1) (number "shift")
    let m ← get
    if m.arguments.length < count then
      complain (ofString "shift: can't shift that many")
      exit 2
    set { m with arguments := m.arguments.drop count }
    status 0
  | "set" => some do
    status 0
    setOptions (arguments.length + 1) arguments
  | "unset" => some do
    modify fun m => { m with
      bindings := m.bindings.filter fun v => !arguments.contains v.1
      functions := m.functions.filter fun f => !arguments.contains f.1 }
    status 0
  | "export" => some (declare true arguments)
  | "readonly" | "local" => some (declare false arguments)
  | "read" => some (read arguments)
  | "test" => some (test false arguments)
  | "[" => some (test true arguments)
  | "cd" => some do
    let home := ((← get).value? (ofString "HOME")).getD []
    changeDirectory (first.getD home)
  | "pwd" => some do
    write 1 ((← get).directory ++ ['\n'])
    status 0
  | "trap" => some (trap arguments)
  | "cat" => some (concatenate arguments)
  | "mkdir" => some (makeDirectories arguments)
  | "rm" => some (removeFiles arguments)
  | "touch" => some (touch arguments)
  | _ => none

end Builtin

end Shell

end Onboarding
