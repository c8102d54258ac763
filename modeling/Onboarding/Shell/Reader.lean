import Onboarding.Shell.Command
import Onboarding.Text.Numeral

/-!
# Reading shell commands

`nextCommand` reads one complete command, which ends with its line.  Each reader takes what is
left of a script and gives what it read with the rest, or a fault.  Readers that call each other
share fuel, of which every chain of calls without progress uses only a little.
-/

namespace Onboarding

namespace Shell

/-- What is left of a script, and the number of its line. -/
structure Source where
  rest : Chars
  line : Nat

/-- A script that is no command: the line and what is said about it. -/
structure Fault where
  line : Nat
  text : String

/-- A reader of a script. -/
abbrev Reader : Type → Type :=
  StateT Source (Except Fault)

namespace Reader

/-! ## Characters -/

/-- Refuses the script. -/
def refuse {α : Type} (text : String) : Reader α :=
  fun s => .error ⟨s.line, text⟩

/-- The next character. -/
def peek : Reader (Option Char) := do
  return (← get).rest.head?

/-- Steps over a character. -/
def advance : Reader Unit :=
  modify fun s =>
    match s.rest with
    | [] => s
    | c :: rest => ⟨rest, if c = '\n' then s.line + 1 else s.line⟩

/-- Steps over text, when it is next. -/
def accept (text : String) : Reader Bool := do
  let s ← get
  if text.toList.isPrefixOf s.rest then
    set (⟨s.rest.drop text.length, s.line⟩ : Source)
    return true
  else return false

/-- What is left after blanks, joined lines and a comment. -/
def afterBlanks (line : Nat) : Chars → Source
  | ' ' :: rest => afterBlanks line rest
  | '\t' :: rest => afterBlanks line rest
  | '\\' :: '\n' :: rest => afterBlanks (line + 1) rest
  | '#' :: rest => ⟨rest.dropWhile (· != '\n'), line⟩
  | rest => ⟨rest, line⟩

/-- Steps over blanks and a comment. -/
def skipBlanks : Reader Unit :=
  modify fun s => afterBlanks s.line s.rest

/-- What is left after blank lines. -/
def afterLines (s : Source) : Nat → Source
  | 0 => s
  | fuel + 1 =>
    match afterBlanks s.line s.rest with
    | ⟨'\n' :: rest, line⟩ => afterLines ⟨rest, line + 1⟩ fuel
    | s => s

/-- Steps over blanks, comments and line ends. -/
def skipLines : Reader Unit :=
  modify fun s => afterLines s (s.rest.length + 1)

/-- The characters for which `p` holds. -/
def span (p : Char → Bool) : Reader Chars := do
  let s ← get
  let taken := s.rest.takeWhile p
  set (⟨s.rest.dropWhile p, s.line + taken.count '\n'⟩ : Source)
  return taken

/-! ## Words without their values -/

/-- The characters that end a word. -/
def endsWord (c : Char) : Bool :=
  " \t\n;&|<>()".toList.contains c

/-- The characters of a name, but for digits in front. -/
def isNameChar (c : Char) : Bool :=
  c.isAlphanum || c == '_'

/-- A name. -/
def isName : Chars → Bool
  | [] => false
  | c :: rest => isNameChar c && !c.isDigit && rest.all isNameChar

/-- The words with a meaning of their own at the place of a command. -/
def reserved : List String :=
  ["if", "then", "else", "elif", "fi", "do", "done", "case", "esac", "while", "until", "for",
    "\x7b", "\x7d", "!"]

/-- The word with a meaning of its own that is next. -/
def reserved? : Reader (Option String) := do
  let s ← get
  let word := String.ofList (s.rest.takeWhile (!endsWord ·))
  return if reserved.contains word then some word else none

/-- What is said about something that does not belong there. -/
def unexpected {α : Type} : Reader α := do
  let s ← get
  match s.rest with
  | [] => refuse "end of file unexpected"
  | '\n' :: _ => refuse "newline unexpected"
  | c :: _ =>
    let word := s.rest.takeWhile (!endsWord ·)
    refuse ("\"" ++ String.ofList (if word.isEmpty then [c] else word) ++ "\" unexpected")

/-- Steps over a word with a meaning of its own. -/
def expect (word : String) : Reader Unit := do
  skipLines
  if (← reserved?) = some word then discard (accept word)
  else
    match (← get).rest with
    | [] => refuse ("end of file unexpected (expecting \"" ++ word ++ "\")")
    | _ => unexpected

/-- The text up to a closing quote, which is stepped over. -/
def upTo (quote : Char) : Reader Chars := do
  let text ← span (· != quote)
  if (← peek).isNone then refuse "Unterminated quoted string"
  advance
  return text

/-- The text between back quotes, in which a backslash protects three characters. -/
def backQuoted : Nat → Reader Chars
  | 0 => refuse "Unterminated quoted string"
  | fuel + 1 => do
    match ← peek with
    | none => refuse "EOF in backquote substitution"
    | some '\x60' => advance; return []
    | some '\\' =>
      advance
      match ← peek with
      | some c =>
        advance
        let rest ← backQuoted fuel
        return if c == '\x60' || c == '\\' || c == '$' then c :: rest else '\\' :: c :: rest
      | none => return ['\\']
    | some c => advance; return c :: (← backQuoted fuel)

/-- The lines up to one that is `delimiter`, and what follows it. -/
def hereLines (delimiter : Chars) (tabs : Bool) : Nat → Chars → Chars × Chars
  | 0, text => (text, [])
  | fuel + 1, text =>
    if text.isEmpty then ([], [])
    else
      let line := text.takeWhile (· != '\n')
      let after := (text.dropWhile (· != '\n')).drop 1
      let line := if tabs then line.dropWhile (· == '\t') else line
      if line = delimiter then ([], after)
      else
        let (more, after) := hereLines delimiter tabs fuel after
        (line ++ '\n' :: more, after)

/-- The lines of a text that begins on the next line, taken out of the script. -/
def takeHere (delimiter : Chars) (tabs : Bool) : Reader Chars := do
  let s ← get
  let line := s.rest.takeWhile (· != '\n')
  let below := (s.rest.dropWhile (· != '\n')).drop 1
  let (text, after) := hereLines delimiter tabs (below.length + 1) below
  set (⟨line ++ '\n' :: after, s.line⟩ : Source)
  return text

/-- The text of a word that is only text. -/
def literal (word : Word) : Chars :=
  word.flatMap fun
    | .plain text => text
    | .quoted text => text
    | _ => []

/-- Whether a part of a word is quoted text. -/
def isQuoted : Part → Bool
  | .quoted _ => true
  | _ => false

/-! ## Words and commands -/

/-- The name of a parameter between braces. -/
def parameterName : Reader Chars := do
  let name ← span isNameChar
  if !name.isEmpty then return name
  match ← peek with
  | some c =>
    if "@*#?$!-".toList.contains c then
      advance
      return [c]
    refuse "Bad substitution"
  | none => refuse "Bad substitution"

/-- The words with a meaning of their own that no command begins with. -/
def closers : List String :=
  ["then", "else", "elif", "fi", "do", "done", "esac", "\x7d"]

/-- Whether no further command of a list is next. -/
def atEnd : Reader Bool := do
  match (← get).rest with
  | [] | ')' :: _ | ';' :: ';' :: _ => return true
  | _ =>
    match ← reserved? with
    | some word => return closers.contains word
    | none => return false

/-- The name before an equals sign, which is stepped over. -/
def assigned? : Reader (Option Chars) := do
  let s ← get
  let name := s.rest.takeWhile isNameChar
  match s.rest.drop name.length with
  | '=' :: rest =>
    if isName name then
      set (⟨rest, s.line⟩ : Source)
      return some name
    else return none
  | _ => return none

mutual

/-- The parts of a word up to a character for which `ends` holds. -/
def parts : Nat → (Char → Bool) → Reader Word
  | 0, _ => unexpected
  | fuel + 1, ends => do
    match ← peek with
    | none => return []
    | some c =>
      if ends c then return []
      else if c = '\'' then
        advance
        let text ← upTo '\''
        return .quoted text :: (← parts fuel ends)
      else if c = '"' then
        advance
        let inside ← quotedParts fuel (· == '"')
        if (← peek).isNone then refuse "Unterminated quoted string"
        advance
        let rest ← parts fuel ends
        return if inside.isEmpty then .quoted [] :: rest else inside ++ rest
      else if c = '\\' then
        advance
        match ← peek with
        | none => return [.quoted ['\\']]
        | some '\n' => advance; parts fuel ends
        | some c => advance; return .quoted [c] :: (← parts fuel ends)
      else if c = '$' then
        advance
        let part ← dollar fuel false
        return part :: (← parts fuel ends)
      else if c = '\x60' then
        advance
        let part ← backQuote fuel false
        return part :: (← parts fuel ends)
      else
        let text ← span fun c => !ends c && !"'\"\\$\x60".toList.contains c
        return .plain text :: (← parts fuel ends)

/-- The parts of quoted text up to a character for which `ends` holds. -/
def quotedParts : Nat → (Char → Bool) → Reader Word
  | 0, _ => unexpected
  | fuel + 1, ends => do
    match ← peek with
    | none => return []
    | some c =>
      if ends c then return []
      else if c = '\\' then
        advance
        match ← peek with
        | none => return [.quoted ['\\']]
        | some '\n' => advance; quotedParts fuel ends
        | some c =>
          advance
          let text := if c == '$' || c == '\x60' || c == '\\' || ends c then [c] else ['\\', c]
          return .quoted text :: (← quotedParts fuel ends)
      else if c = '$' then
        advance
        let part ← dollar fuel true
        return part :: (← quotedParts fuel ends)
      else if c = '\x60' then
        advance
        let part ← backQuote fuel true
        return part :: (← quotedParts fuel ends)
      else
        let text ← span fun c => !ends c && !"\\$\x60".toList.contains c
        return .quoted text :: (← quotedParts fuel ends)

/-- What stands between back quotes. -/
def backQuote : Nat → Bool → Reader Part
  | 0, _ => unexpected
  | fuel + 1, quoted => do
    let s ← get
    let text ← backQuoted (s.rest.length + 1)
    let after ← get
    set (⟨text, s.line⟩ : Source)
    let body ← items fuel
    set after
    return .output quoted (.sequence body)

/-- What follows a dollar sign. -/
def dollar : Nat → Bool → Reader Part
  | 0, _ => unexpected
  | fuel + 1, quoted => do
    if ← accept "((" then
      let expression ← balanced fuel 0
      return .arithmetic quoted expression
    else if ← accept "(" then
      let body ← items fuel
      skipLines
      if ← accept ")" then return .output quoted (.sequence body) else unexpected
    else if ← accept "\x7b" then
      if ← accept "#" then
        if ← accept "\x7d" then return .parameter quoted ['#'] .value
        let name ← parameterName
        if ← accept "\x7d" then return .parameter quoted name .length
        refuse "Bad substitution"
      let name ← parameterName
      let use ← parameterUse fuel quoted
      if ← accept "\x7d" then return .parameter quoted name use
      refuse "Bad substitution"
    else
      match ← peek with
      | none => return .quoted ['$']
      | some c =>
        if "@*#?$!-".toList.contains c || c.isDigit then
          advance
          return .parameter quoted [c] .value
        else if isNameChar c then
          return .parameter quoted (← span isNameChar) .value
        else return .quoted ['$']

/-- What follows the name of a parameter between braces. -/
def parameterUse : Nat → Bool → Reader Use
  | 0, _ => unexpected
  | fuel + 1, quoted => do
    let word : Reader Word :=
      if quoted then quotedParts fuel (· == '\x7d') else parts fuel (· == '\x7d')
    let pattern : Reader Word := parts fuel (· == '\x7d')
    if ← accept ":-" then return .orElse true (← word)
    if ← accept "-" then return .orElse false (← word)
    if ← accept ":=" then return .assign true (← word)
    if ← accept "=" then return .assign false (← word)
    if ← accept ":?" then return .insist true (← word)
    if ← accept "?" then return .insist false (← word)
    if ← accept ":+" then return .whenSet true (← word)
    if ← accept "+" then return .whenSet false (← word)
    if ← accept "##" then return .cutFront true (← pattern)
    if ← accept "#" then return .cutFront false (← pattern)
    if ← accept "%%" then return .cutBack true (← pattern)
    if ← accept "%" then return .cutBack false (← pattern)
    return .value

/-- The parts of an arithmetic expression and its closing brackets; `depth` brackets are open
inside. -/
def balanced : Nat → Nat → Reader Word
  | 0, _ => unexpected
  | fuel + 1, depth => do
    let inside ← quotedParts fuel fun c => c == '(' || c == ')'
    match ← peek with
    | some '(' =>
      advance
      return inside ++ .quoted ['('] :: (← balanced fuel (depth + 1))
    | some ')' =>
      match depth with
      | 0 => if ← accept "))" then return inside else unexpected
      | depth + 1 =>
        advance
        return inside ++ .quoted [')'] :: (← balanced fuel depth)
    | _ => unexpected

/-- A redirection, when one is next. -/
def redirection? : Nat → Reader (Option Redirection)
  | 0 => unexpected
  | fuel + 1 => do
    skipBlanks
    let s ← get
    let digits := s.rest.takeWhile Char.isDigit
    let after := s.rest.drop digits.length
    if after.head? = some '<' ∨ after.head? = some '>' then
      set (⟨after, s.line⟩ : Source)
      let given := Numeral.read? 10 digits
      let named (usual : Nat) (direction : Direction) : Reader (Option Redirection) := do
        skipBlanks
        let target ← parts fuel endsWord
        if target.isEmpty then unexpected
        return some (.named (given.getD usual) direction target)
      let here (tabs : Bool) : Reader (Option Redirection) := do
        skipBlanks
        let delimiter ← parts fuel endsWord
        let text ← takeHere (literal delimiter) tabs
        if delimiter.any isQuoted then return some (.here (given.getD 0) [.quoted text])
        let outer ← get
        set (⟨text, outer.line⟩ : Source)
        let content ← quotedParts fuel fun _ => false
        set outer
        return some (.here (given.getD 0) content)
      if ← accept "<<-" then here true
      else if ← accept "<<" then here false
      else if ← accept "<&" then named 0 .sameAs
      else if ← accept "<>" then named 0 .input
      else if ← accept "<" then named 0 .input
      else if ← accept ">>" then named 1 .append
      else if ← accept ">&" then named 1 .sameAs
      else if ← accept ">|" then named 1 .output
      else if ← accept ">" then named 1 .output
      else unexpected
    else return none

/-- The redirections that are next. -/
def redirections : Nat → Reader (List Redirection)
  | 0 => unexpected
  | fuel + 1 => do
    match ← redirection? fuel with
    | some redirection => return redirection :: (← redirections fuel)
    | none => return []

/-- A simple command or the definition of a function, of which the given parts have been read. -/
def simple : Nat → Nat → List (Chars × Word) → List Word → List Redirection → Reader Command
  | 0, _, _, _, _ => unexpected
  | fuel + 1, line, assignments, words, redirs => do
    match ← redirection? fuel with
    | some redirection => simple fuel line assignments words (redirs ++ [redirection])
    | none =>
      match ← (if words.isEmpty then assigned? else return none) with
      | some name =>
        let value ← parts fuel endsWord
        simple fuel line (assignments ++ [(name, value)]) words redirs
      | none =>
        let word ← parts fuel endsWord
        if word.isEmpty then
          if assignments.isEmpty && words.isEmpty && redirs.isEmpty then unexpected
          return .simple line assignments words redirs
        else if words.isEmpty && assignments.isEmpty && (← peek) == some '(' then
          advance
          skipBlanks
          if ← accept ")" then
            skipLines
            return .define (literal word) (← command fuel)
          unexpected
        else simple fuel line assignments (words ++ [word]) redirs

/-- A command. -/
def command : Nat → Reader Command
  | 0 => unexpected
  | fuel + 1 => do
    skipBlanks
    let line := (← get).line
    if ← accept "(" then
      let body ← list fuel
      skipLines
      if ← accept ")" then return .redirected (.subshell body) (← redirections fuel)
      unexpected
    match ← reserved? with
    | none => simple fuel line [] [] []
    | some "\x7b" =>
      discard (accept "\x7b")
      let body ← list fuel
      expect "\x7d"
      return .redirected body (← redirections fuel)
    | some "if" =>
      discard (accept "if")
      let (branches, otherwise) ← choice fuel
      return .redirected (.choice branches otherwise) (← redirections fuel)
    | some "while" =>
      discard (accept "while")
      let condition ← list fuel
      let body ← block fuel
      return .redirected (.loop true condition body) (← redirections fuel)
    | some "until" =>
      discard (accept "until")
      let condition ← list fuel
      let body ← block fuel
      return .redirected (.loop false condition body) (← redirections fuel)
    | some "for" =>
      discard (accept "for")
      skipBlanks
      let name ← span isNameChar
      if !isName name then refuse "Bad for loop variable"
      skipLines
      let words ← (do
        if (← get).rest.takeWhile (!endsWord ·) = ['i', 'n'] then
          discard (accept "in")
          return some (← words fuel)
        else return none)
      skipBlanks
      discard (accept ";")
      let body ← block fuel
      return .redirected (.each name words body) (← redirections fuel)
    | some "case" =>
      discard (accept "case")
      skipBlanks
      let word ← parts fuel endsWord
      skipLines
      if ← accept "in" then
        return .redirected (.select word (← arms fuel)) (← redirections fuel)
      unexpected
    | some _ => unexpected

/-- The words up to the end of a command. -/
def words : Nat → Reader (List Word)
  | 0 => unexpected
  | fuel + 1 => do
    skipBlanks
    let word ← parts fuel endsWord
    if word.isEmpty then return []
    return word :: (← words fuel)

/-- The commands between `do` and `done`. -/
def block : Nat → Reader Command
  | 0 => unexpected
  | fuel + 1 => do
    expect "do"
    let body ← list fuel
    expect "done"
    return body

/-- The branches of a choice after `if` or `elif`, and what follows `else`. -/
def choice : Nat → Reader (List (Command × Command) × Option Command)
  | 0 => unexpected
  | fuel + 1 => do
    let condition ← list fuel
    expect "then"
    let body ← list fuel
    skipLines
    match ← reserved? with
    | some "elif" =>
      discard (accept "elif")
      let (branches, otherwise) ← choice fuel
      return ((condition, body) :: branches, otherwise)
    | some "else" =>
      discard (accept "else")
      let otherwise ← list fuel
      expect "fi"
      return ([(condition, body)], some otherwise)
    | _ =>
      expect "fi"
      return ([(condition, body)], none)

/-- The arms of a selection and its end. -/
def arms : Nat → Reader (List (List Word × Command))
  | 0 => unexpected
  | fuel + 1 => do
    skipLines
    if (← reserved?) = some "esac" then
      discard (accept "esac")
      return []
    discard (accept "(")
    let patterns ← patterns fuel
    let body ← items fuel
    skipLines
    if ← accept ";;" then return (patterns, .sequence body) :: (← arms fuel)
    expect "esac"
    return [(patterns, .sequence body)]

/-- The patterns of an arm and the bracket after them. -/
def patterns : Nat → Reader (List Word)
  | 0 => unexpected
  | fuel + 1 => do
    skipBlanks
    let pattern ← parts fuel endsWord
    skipBlanks
    if ← accept "|" then return pattern :: (← patterns fuel)
    if ← accept ")" then return [pattern]
    unexpected

/-- A command, negated or not, and those that it is piped through. -/
def pipeline : Nat → Reader Command
  | 0 => unexpected
  | fuel + 1 => do
    skipBlanks
    if (← reserved?) = some "!" then
      discard (accept "!")
      return .negated (← pipeline fuel)
    let first ← command fuel
    let rest ← piped fuel
    return if rest.isEmpty then first else .pipe (first :: rest)

/-- The commands behind a bar. -/
def piped : Nat → Reader (List Command)
  | 0 => unexpected
  | fuel + 1 => do
    skipBlanks
    match (← get).rest with
    | '|' :: '|' :: _ => return []
    | '|' :: _ =>
      advance
      skipLines
      let next ← command fuel
      return next :: (← piped fuel)
    | _ => return []

/-- Pipelines joined by conditions, behind the first of them. -/
def joined : Nat → Command → Reader Command
  | 0, _ => unexpected
  | fuel + 1, first => do
    skipBlanks
    if ← accept "&&" then
      skipLines
      joined fuel (.both first (← pipeline fuel))
    else if ← accept "||" then
      skipLines
      joined fuel (.either first (← pipeline fuel))
    else return first

/-- The commands of a list, which may be none. -/
def items : Nat → Reader (List Command)
  | 0 => unexpected
  | fuel + 1 => do
    skipLines
    if ← atEnd then return []
    let first ← joined fuel (← pipeline fuel)
    skipBlanks
    match (← get).rest with
    | ';' :: ';' :: _ => return [first]
    | ';' :: _ | '&' :: _ | '\n' :: _ =>
      advance
      return first :: (← items fuel)
    | _ => return [first]

/-- A list of at least one command. -/
def list : Nat → Reader Command
  | 0 => unexpected
  | fuel + 1 => do
    match ← items fuel with
    | [] => unexpected
    | commands => return .sequence commands

end

/-- The commands of a line, of which the first is next. -/
def line : Nat → Reader (List Command)
  | 0 => unexpected
  | fuel + 1 => do
    let first ← joined fuel (← pipeline fuel)
    skipBlanks
    match (← get).rest with
    | [] => return [first]
    | '\n' :: _ =>
      advance
      return [first]
    | ';' :: c :: _ =>
      if c = ';' then unexpected
      advance
      skipBlanks
      if (← peek).isNone || (← peek) == some '\n' then return [first]
      return first :: (← line fuel)
    | ';' :: _ | '&' :: _ =>
      advance
      skipBlanks
      if (← peek).isNone || (← peek) == some '\n' then return [first]
      return first :: (← line fuel)
    | _ => unexpected

/-- More fuel than reading takes: no chain of calls without progress is as long as twenty. -/
def fuelFor (s : Source) : Nat :=
  20 * (s.rest.length + 1)

/-- The next complete command; nothing at the end of the script. -/
def nextCommand : Reader (Option Command) := do
  skipLines
  if (← get).rest.isEmpty then return none
  return some (.sequence (← line (fuelFor (← get))))

/-- All commands of a text. -/
def whole (text : Chars) : Except Fault Command := do
  let source : Source := ⟨text, 1⟩
  let reader : Reader Command := do
    let commands ← items (fuelFor source)
    if (← peek).isSome then unexpected
    return .sequence commands
  return (← reader source).1

end Reader

end Shell

end Onboarding
