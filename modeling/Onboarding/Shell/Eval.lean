import Onboarding.Shell.Builtin
import Onboarding.Shell.Reader

/-!
# Running shell commands

`perform` runs a command, `runScript` a whole script line by line.  Both use fuel, which a command
that ends never exhausts in practice; what is left undone without fuel counts as the end of the
shell.
-/

namespace Onboarding

namespace Shell

open Run

/-- The fuel of a script. -/
def scriptFuel : Nat :=
  10000000

/-- Ends the shell after a failure, where that was asked for. -/
def checkFailure (tested : Bool) : Run Unit := do
  let m ← get
  if m.exitOnFailure && !tested && m.status != 0 then throw .exit

/-- The number of a descriptor. -/
def descriptor? (text : Chars) : Option Nat :=
  Numeral.read? 10 text

/-- Connects a descriptor as a redirection says; `target` is the word behind it. -/
def redirect (descriptor : Nat) (direction : Direction) (target : Chars) : Run Unit := do
  let m ← get
  let path := Chars.toPath target
  let refuse (verb : String) (cause : SystemError) : Run Unit := do
    let reason :=
      match cause, verb with
      | .notFound, "create" => "Directory nonexistent"
      | .notFound, _ => "No such file"
      | cause, _ => Builtin.systemText cause
    complain (ofString ("cannot " ++ verb ++ " ") ++ target ++ ofString (": " ++ reason))
    exit 2
  let output (opened : Except SystemError (Sandbox.Place × Sandbox.Files)) : Run Unit := do
    match opened with
    | .error cause => refuse "create" cause
    | .ok (place, files) =>
      let target :=
        match files.entry? place with
        | some (.file ..) => .file place
        | _ => .void
      set ({ m with files := files }.connect descriptor target)
  match direction with
  | .output => output (m.files.truncate m.here path)
  | .append => output (m.files.ensure m.here path)
  | .input =>
    match m.files.read m.here path with
    | .ok content => if descriptor = 0 then set { m with input := ofBytes content }
    | .error .isADirectory => if descriptor = 0 then set { m with input := [] }
    | .error cause => refuse "open" cause
  | .sameAs =>
    if target == ['-'] then
      set { m with descriptors := m.descriptors.filter (·.1 != descriptor) }
    else
      match (descriptor? target).bind fun n => m.descriptors.lookup n with
      | some other => set (m.connect descriptor other)
      | none =>
        if descriptor = 0 then return ()
        complain (target ++ ofString ": Bad file descriptor")
        exit 2

mutual

/-- The pieces that a part of a word becomes. -/
def expandPart : Nat → Part → Run (List Piece)
  | 0, _ => throw .exit
  | fuel + 1, part => do
    let piece (quoted : Bool) (text : Chars) : List Piece :=
      if quoted then [.fixed text] else [.loose text]
    match part with
    | .plain text => return [.plain text]
    | .quoted text => return [.fixed text]
    | .output quoted body =>
      let text ← captured (perform fuel false body)
      modify fun m => { m with inner := some m.status }
      return piece quoted (text.reverse.dropWhile (· == '\n')).reverse
    | .arithmetic quoted expression =>
      let text ← expandText fuel expression
      let m ← get
      match Arithmetic.evaluate? (fun name => (m.value? name).getD []) text with
      | some n => return piece quoted (Arithmetic.decimal n)
      | none =>
        complain (ofString "arithmetic expression: expecting primary: \"" ++ text ++ ['"'])
        exit 2
    | .parameter quoted name use =>
      let m ← get
      let value? := m.value? name
      let missing (emptyToo : Bool) : Bool :=
        value?.isNone || (emptyToo && value? == some [])
      let word (parts : Word) : Run (List Piece) := do
        let pieces ← expand fuel parts
        return if quoted then pieces else pieces.map Piece.asValue
      let plain : Run (List Piece) := do
        if value?.isNone && m.refuseUnset && name != ['@'] && name != ['*'] then
          complain (name ++ ofString ": parameter not set")
          exit 2
        if name == ['@'] && quoted then return Piece.ofArguments m.arguments
        return piece quoted (value?.getD [])
      match use with
      | .value => plain
      | .length => return piece quoted (Nat.toDigits 10 (value?.getD []).length)
      | .orElse emptyToo parts => if missing emptyToo then word parts else plain
      | .whenSet emptyToo parts =>
        if missing emptyToo then return if quoted then [.fixed []] else [] else word parts
      | .assign emptyToo parts =>
        if missing emptyToo then
          let text ← expandText fuel parts
          modify (·.assign name text)
          return piece quoted text
        else plain
      | .insist emptyToo parts =>
        if missing emptyToo then
          let text ← expandText fuel parts
          let usual := if emptyToo then "parameter not set or null" else "parameter not set"
          complain (name ++ ofString ": " ++ if text.isEmpty then ofString usual else text)
          exit 2
        else plain
      | .cutFront longest parts =>
        let pattern := Piece.pattern (← expand fuel parts)
        return piece quoted (Glob.cutFront longest pattern (value?.getD []))
      | .cutBack longest parts =>
        let pattern := Piece.pattern (← expand fuel parts)
        return piece quoted (Glob.cutBack longest pattern (value?.getD []))

/-- The pieces that a word becomes. -/
def expand : Nat → Word → Run (List Piece)
  | 0, _ => throw .exit
  | _, [] => return []
  | fuel + 1, part :: rest => do
    let pieces ← expandPart fuel part
    return pieces ++ (← expand fuel rest)

/-- The text that a word becomes where it is not split. -/
def expandText : Nat → Word → Run Chars
  | 0, _ => throw .exit
  | fuel + 1, word => do
    return Piece.textOf (← expand fuel word)

/-- The fields that words become. -/
def expandWords : Nat → List Word → Run (List Chars)
  | 0, _ => throw .exit
  | _, [] => return []
  | fuel + 1, word :: rest => do
    let fields := Piece.fields (← expand fuel word)
    return fields ++ (← expandWords fuel rest)

/-- Connects descriptors in order. -/
def redirectAll : Nat → List Redirection → Run Unit
  | 0, _ => throw .exit
  | _, [] => return ()
  | fuel + 1, .named descriptor direction target :: rest => do
    redirect descriptor direction (← expandText fuel target)
    redirectAll fuel rest
  | fuel + 1, .here _ text :: rest => do
    let text ← expandText fuel text
    modify fun m => { m with input := text }
    redirectAll fuel rest

/-- Sets variables in order. -/
def assignAll : Nat → List (Chars × Word) → Run Unit
  | 0, _ => throw .exit
  | _, [] => return ()
  | fuel + 1, (name, word) :: rest => do
    let value ← expandText fuel word
    modify (·.assign name value)
    assignAll fuel rest

/-- Redirections and then a run; a redirection that fails is a failure of the command. -/
def redirected : Nat → List Redirection → Run Unit → Run Unit
  | 0, _, _ => throw .exit
  | fuel + 1, redirections, x => restored do
    match ← attempt (redirectAll fuel redirections) with
    | some _ => status 2
    | none => x

/-- Runs the text of a script that is at hand as a whole. -/
def runText : Nat → Chars → Run Unit
  | 0, _ => throw .exit
  | fuel + 1, text => do
    match Reader.whole text with
    | .ok body => perform fuel false body
    | .error fault =>
      modify fun m => { m with line := fault.line }
      complain (ofString ("Syntax error: " ++ fault.text))
      exit 2

/-- Runs a function, a built-in command or a program. -/
def call : Nat → Chars → List Chars → Run Unit
  | 0, _, _ => throw .exit
  | fuel + 1, name, arguments => do
    let m ← get
    match m.functions.lookup name with
    | some body =>
      set { m with arguments := arguments }
      let stop ← attempt (perform fuel false body)
      modify fun after => { after with arguments := m.arguments }
      match stop with
      | none | some .back => return ()
      | some stop => throw stop
    | none =>
      match String.ofList name, arguments with
      | "eval", arguments =>
        status 0
        runText fuel ([' '].intercalate arguments)
      | ".", path :: _ =>
        match m.files.read m.here (Chars.toPath path) with
        | .ok content =>
          status 0
          runText fuel (ofBytes content)
        | .error _ =>
          complain (ofString ".: cannot open " ++ path ++ ofString ": No such file")
          exit 2
      | "command", ['-', 'v'] :: name :: _ =>
        if (Builtin.run? (String.ofList name) []).isSome then
          write 1 (name ++ ['\n'])
          status 0
        else status 127
      | "command", name :: arguments => call fuel name arguments
      | "exec", name :: arguments =>
        call fuel name arguments
        throw .exit
      | "kill", arguments => kill fuel arguments
      | "sh", ['-', 'c'] :: text :: rest =>
        detached do
          modify fun m =>
            { m with name := rest.headD (ofString "sh"), arguments := rest.tail, line := 1 }
          runText fuel text
      | name', arguments =>
        match Builtin.run? name' arguments with
        | some x => x
        | none =>
          if name.contains '/' then runFile fuel name arguments
          else fail 127 (name ++ ofString ": not found")

/-- Runs a file as a script of its own. -/
def runFile : Nat → Chars → List Chars → Run Unit
  | 0, _, _ => throw .exit
  | fuel + 1, path, arguments => do
    let m ← get
    match m.files.find m.here (Chars.toPath path) with
    | .ok (_, .file content true) =>
      detached do
        set { Machine.begin m.files m.here
            (m.bindings.filter fun v => m.exported.contains v.1) path arguments with
          input := m.input, descriptors := m.descriptors, buffers := m.buffers }
        runText fuel (ofBytes content)
    | .ok (_, .program name) =>
      match Builtin.run? name arguments with
      | some x => x
      | none => status 0
    | .ok _ | .error .permissionDenied => fail 126 (path ++ ofString ": Permission denied")
    | .error _ => fail 127 (path ++ ofString ": not found")

/-- Sends a signal. -/
def kill : Nat → List Chars → Run Unit
  | 0, _ => throw .exit
  | fuel + 1, arguments => do
    let (signal?, targets) : Option Nat × List Chars :=
      match arguments with
      | ['-', 's'] :: name :: rest => (Builtin.signal? name, rest)
      | ('-' :: name) :: rest => (Builtin.signal? name, rest)
      | rest => (some 15, rest)
    match signal? with
    | none =>
      complain (ofString "kill: Illegal option " ++ arguments.headD [])
      exit 2
    | some signal =>
      if targets.contains (Nat.toDigits 10 processId) then
        match (← get).traps.lookup signal with
        | some action => runText fuel action
        | none => if Builtin.isHarmless signal then status 0 else throw (.killed signal)
      else
        write 2 (ofString "kill: No such process\n")
        status 1

/-- Repeats a body while a condition holds, or until it does. -/
def repeated : Nat → Bool → Bool → Command → Command → Nat → Run Unit
  | 0, _, _, _, _, _ => throw .exit
  | fuel + 1, tested, while?, condition, body, last => do
    match ← attempt (perform fuel true condition) with
    | some (.leave n) => if n ≤ 1 then status last else throw (.leave (n - 1))
    | some (.again n) =>
      if n ≤ 1 then repeated fuel tested while? condition body last
      else throw (.again (n - 1))
    | some stop => throw stop
    | none =>
      if ((← get).status == 0) == while? then
        match ← attempt (perform fuel tested body) with
        | some (.leave n) => if n ≤ 1 then status 0 else throw (.leave (n - 1))
        | some (.again n) =>
          if n ≤ 1 then repeated fuel tested while? condition body 0
          else throw (.again (n - 1))
        | some stop => throw stop
        | none => repeated fuel tested while? condition body (← get).status
      else status last

/-- Repeats a body for each value of a variable. -/
def forEach : Nat → Bool → Chars → List Chars → Command → Run Unit
  | 0, _, _, _, _ => throw .exit
  | _, _, _, [], _ => return ()
  | fuel + 1, tested, name, value :: rest, body => do
    modify (·.assign name value)
    match ← attempt (perform fuel tested body) with
    | some (.leave n) => if n ≤ 1 then status 0 else throw (.leave (n - 1))
    | some (.again n) =>
      if n ≤ 1 then forEach fuel tested name rest body else throw (.again (n - 1))
    | some stop => throw stop
    | none => forEach fuel tested name rest body

/-- Runs the first branch whose condition holds. -/
def choose : Nat → Bool → List (Command × Command) → Option Command → Run Unit
  | 0, _, _, _ => throw .exit
  | _, _, [], none => status 0
  | fuel + 1, tested, [], some body => perform fuel tested body
  | fuel + 1, tested, (condition, body) :: rest, otherwise => do
    perform fuel true condition
    if (← get).status = 0 then perform fuel tested body
    else choose fuel tested rest otherwise

/-- Whether text matches one of several words. -/
def matchesOne : Nat → Chars → List Word → Run Bool
  | 0, _, _ => throw .exit
  | _, _, [] => return false
  | fuel + 1, text, word :: rest => do
    if Glob.accepts (Piece.pattern (← expand fuel word)) text then return true
    matchesOne fuel text rest

/-- Runs the first arm that a text matches. -/
def select : Nat → Bool → Chars → List (List Word × Command) → Run Unit
  | 0, _, _, _ => throw .exit
  | _, _, _, [] => status 0
  | fuel + 1, tested, text, (patterns, body) :: rest => do
    if ← matchesOne fuel text patterns then
      status 0
      perform fuel tested body
    else select fuel tested text rest

/-- Runs commands of which each reads what the one before it wrote. -/
def piped : Nat → List Command → Run Unit
  | 0, _ => throw .exit
  | _, [] => return ()
  | fuel + 1, [last] => detached (perform fuel false last)
  | fuel + 1, first :: rest => do
    let text ← captured (perform fuel false first)
    modify fun m => { m with input := text }
    piped fuel rest

/-- Runs commands in order. -/
def performAll : Nat → Bool → List Command → Run Unit
  | 0, _, _ => throw .exit
  | _, _, [] => return ()
  | fuel + 1, tested, command :: rest => do
    perform fuel tested command
    performAll fuel tested rest

/-- Runs a command; `tested` tells whether its failure is looked at. -/
def perform : Nat → Bool → Command → Run Unit
  | 0, _, _ => throw .exit
  | fuel + 1, tested, command => do
    match command with
    | .simple line assignments words redirections =>
      modify fun m => { m with line := line, inner := none }
      let fields ← expandWords fuel words
      match fields with
      | [] =>
        assignAll fuel assignments
        status ((← get).inner.getD 0)
        if !redirections.isEmpty then redirected fuel redirections (return ())
      | name :: arguments =>
        if (← get).trace then
          write 2 (ofString "+ " ++ [' '].intercalate fields ++ ['\n'])
        if name == ofString "exec" && arguments.isEmpty then
          redirectAll fuel redirections
          status 0
        else
          let before ← get
          assignAll fuel assignments
          modify fun m => { m with exported := assignments.map (·.1) ++ m.exported }
          redirected fuel redirections (call fuel name arguments)
          if !assignments.isEmpty && !Builtin.isSpecial (String.ofList name) then
            modify fun m => { m with bindings := before.bindings, exported := before.exported }
      checkFailure tested
    | .redirected body redirections =>
      if redirections.isEmpty then perform fuel tested body
      else redirected fuel redirections (perform fuel tested body)
    | .sequence commands => performAll fuel tested commands
    | .pipe commands =>
      restored (piped fuel commands)
      checkFailure tested
    | .negated body =>
      perform fuel true body
      status (if (← get).status = 0 then 1 else 0)
    | .both first second =>
      perform fuel true first
      if (← get).status = 0 then perform fuel tested second
    | .either first second =>
      perform fuel true first
      if (← get).status ≠ 0 then perform fuel tested second
    | .subshell body =>
      detached (perform fuel tested body)
      checkFailure tested
    | .choice branches otherwise => choose fuel tested branches otherwise
    | .loop while? condition body => repeated fuel tested while? condition body 0
    | .each name words body =>
      let values ← match words with
        | some words => expandWords fuel words
        | none => pure (← get).arguments
      status 0
      forEach fuel tested name values body
    | .select word arms => select fuel tested (← expandText fuel word) arms
    | .define name body =>
      modify fun m => { m with functions := (name, body) :: m.functions.filter (·.1 != name) }
      status 0

end

/-- Runs what is left of a script, command by command. -/
def runSource : Nat → Source → Run Unit
  | 0, _ => throw .exit
  | fuel + 1, source => do
    match Reader.nextCommand source with
    | .error fault =>
      modify fun m => { m with line := fault.line }
      complain (ofString ("Syntax error: " ++ fault.text))
      exit 2
    | .ok (none, _) => return ()
    | .ok (some command, rest) =>
      perform fuel false command
      runSource fuel rest

/-- Runs a script and what was set for its end, and gives the way it ended. -/
def runScript (text : Chars) : StateM Machine ExitStatus := do
  let stop ← (attempt (runSource scriptFuel ⟨text, 1⟩)).run
  let stop ← match stop with
    | .ok (some (.killed signal)) => pure (.ok (some (.killed signal)))
    | _ => do
      let m ← get
      match m.traps.lookup 0 with
      | some action => (attempt (do
          runText scriptFuel action
          status m.status)).run
      | none => pure stop
  match stop with
  | .ok (some (.killed signal)) => return .signalled signal
  | _ => return .exited (← get).status

end Shell

end Onboarding
