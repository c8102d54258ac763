import Onboarding.Shell.Eval

/-!
# Interpreter lines

The first line of an executable file names the program that runs it.
-/

namespace Onboarding

namespace Shell

/-- The octets in which the line has to end. -/
def interpreterLimit : Nat :=
  256

/-- A blank of the interpreter line. -/
def isLineBlank (c : Char) : Bool :=
  c == ' ' || c == '\t'

/-- The program and the argument that the first line of a file names. -/
def interpreter? (content : Bytes) : Option (Chars × Option Chars) :=
  match ofBytes (content.take interpreterLimit) with
  | '#' :: '!' :: rest =>
    let line := (rest.takeWhile fun c => c != '\n' && c != '\x00').dropWhile isLineBlank
    let line := (line.reverse.dropWhile isLineBlank).reverse
    let program := line.takeWhile (!isLineBlank ·)
    let argument := (line.drop program.length).dropWhile isLineBlank
    if program.isEmpty then none
    else some (program, if argument.isEmpty then none else some argument)
  | _ => none

/-- The programs that run the commands of a file. -/
def isShell (name : String) : Bool :=
  ["sh", "dash", "bash"].contains name

/-- The machine with the options that an interpreter line gives. -/
def withOptions (m : Machine) : Option Chars → Machine
  | some ('-' :: letters) => letters.foldl (fun m c => m.option true c) m
  | _ => m

/-- Runs a file, whose path is the machine's name, by the program of a name. -/
def interpret (m : Machine) (program : String) (argument : Option Chars) (content : Bytes) :
    ExitStatus × Machine :=
  if isShell program then
    (runScript (ofBytes content)).run (withOptions m argument)
  else if program = "env" then
    let name := argument.getD []
    if isShell (String.ofList name) then (runScript (ofBytes content)).run m
    else (.exited 127,
      m.write 2 (ofString "env: '" ++ name ++ ofString "': No such file or directory\n"))
  else if program = "false" then (.exited 1, m)
  else (.exited 0, m)

end Shell

end Onboarding
