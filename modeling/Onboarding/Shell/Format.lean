import Onboarding.Shell.Arithmetic

/-!
# Shell output

What `echo` and `printf` write for their arguments.
-/

namespace Onboarding

namespace Shell

namespace Format

/-- The letters that stand for a control after a backslash. -/
def control? : Char → Option Char
  | 'a' => some '\x07'
  | 'b' => some '\x08'
  | 'f' => some '\x0c'
  | 'n' => some '\n'
  | 'r' => some '\x0d'
  | 't' => some '\t'
  | 'v' => some '\x0b'
  | '\\' => some '\\'
  | _ => none

/-- An octal digit. -/
def isOctal (c : Char) : Bool :=
  '0' ≤ c && c ≤ '7'

/-- The octet of octal digits. -/
def octet (digits : Chars) : Char :=
  Char.ofNat ((Numeral.read? 8 digits).getD 0 % 256)

/-- Text with its escapes resolved, and whether one of them ends all output.  Octal digits follow
a zero.  The first `skip` characters are part of an escape before. -/
def escapedFrom : Nat → Chars → Chars × Bool
  | _, [] => ([], false)
  | skip + 1, _ :: rest => escapedFrom skip rest
  | 0, '\\' :: 'c' :: _ => ([], true)
  | 0, '\\' :: '0' :: rest =>
    let digits := (rest.takeWhile isOctal).take 3
    let (more, ends) := escapedFrom (digits.length + 1) ('0' :: rest)
    (octet digits :: more, ends)
  | 0, '\\' :: c :: rest =>
    let (more, ends) := escapedFrom 1 (c :: rest)
    match control? c with
    | some control => (control :: more, ends)
    | none => ('\\' :: c :: more, ends)
  | 0, c :: rest =>
    let (more, ends) := escapedFrom 0 rest
    (c :: more, ends)

/-- What `echo` writes. -/
def echo (arguments : List Chars) : Chars :=
  let (newline, arguments) : Bool × List Chars :=
    match arguments with
    | ['-', 'n'] :: rest => (false, rest)
    | rest => (true, rest)
  let (text, ends) := escapedFrom 0 ([' '].intercalate arguments)
  if newline && !ends then text ++ ['\n'] else text

/-! ## Formats -/

/-- A piece of a format. -/
inductive Piece where
  | text (c : Char)
  | directive (left : Bool) (zeros : Bool) (width : Nat) (precision : Option Nat) (kind : Char)
  | stop

/-- The pieces of a format. -/
def pieces : Nat → Chars → List Piece
  | 0, _ => []
  | _, [] => []
  | fuel + 1, '\\' :: rest =>
    match rest with
    | [] => [.text '\\']
    | 'c' :: _ => [.stop]
    | c :: more =>
      if isOctal c then
        let digits := (rest.takeWhile isOctal).take 3
        .text (octet digits) :: pieces fuel (rest.drop digits.length)
      else if c == '"' || c == '\'' then .text c :: pieces fuel more
      else
        match control? c with
        | some control => .text control :: pieces fuel more
        | none => .text '\\' :: .text c :: pieces fuel more
  | fuel + 1, '%' :: '%' :: rest => .text '%' :: pieces fuel rest
  | fuel + 1, '%' :: rest =>
    let flags := rest.takeWhile fun c => "-+ #0".toList.contains c
    let rest := rest.drop flags.length
    let width := rest.takeWhile Char.isDigit
    let rest := rest.drop width.length
    let (precision, rest) : Option Nat × Chars :=
      match rest with
      | '.' :: more =>
        let digits := more.takeWhile Char.isDigit
        (some ((Numeral.read? 10 digits).getD 0), more.drop digits.length)
      | rest => (none, rest)
    match rest with
    | [] => [.text '%']
    | kind :: rest =>
      .directive (flags.contains '-') (flags.contains '0') ((Numeral.read? 10 width).getD 0)
        precision kind :: pieces fuel rest
  | fuel + 1, c :: rest => .text c :: pieces fuel rest

/-- Text with blanks or zeros up to a width. -/
def pad (left zeros : Bool) (width : Nat) (text : Chars) : Chars :=
  let fill := List.replicate (width - text.length)
  if left then text ++ fill ' ' else if zeros then fill '0' ++ text else fill ' ' ++ text

/-- What a directive makes of an argument, and whether output ends with it. -/
def directive (left zeros : Bool) (width : Nat) (precision : Option Nat) (kind : Char)
    (argument : Chars) : Chars × Bool :=
  let number := (Arithmetic.integer? argument).getD 0
  let cut (text : Chars) := match precision with
    | some n => text.take n
    | none => text
  match kind with
  | 's' => (pad left false width (cut argument), false)
  | 'b' =>
    let (text, ends) := escapedFrom 0 argument
    (pad left false width (cut text), ends)
  | 'c' => (pad left false width (argument.take 1), false)
  | 'd' | 'i' | 'u' => (pad left zeros width (Arithmetic.decimal number), false)
  | 'o' => (pad left zeros width (Nat.toDigits 8 number.natAbs), false)
  | 'x' => (pad left zeros width (Nat.toDigits 16 number.natAbs), false)
  | 'X' => (pad left zeros width ((Nat.toDigits 16 number.natAbs).map Char.toUpper), false)
  | _ => ([], false)

/-- What the pieces of a format make of arguments: the text, the arguments that are left, and
whether output ends. -/
def fill : List Piece → List Chars → Chars × List Chars × Bool
  | [], arguments => ([], arguments, false)
  | .stop :: _, arguments => ([], arguments, true)
  | .text c :: rest, arguments =>
    let (text, left, ends) := fill rest arguments
    (c :: text, left, ends)
  | .directive left zeros width precision kind :: rest, arguments =>
    let (here, stops) := directive left zeros width precision kind (arguments.headD [])
    if stops then (here, arguments.tail, true)
    else
      let (text, more, ends) := fill rest arguments.tail
      (here ++ text, more, ends)

/-- A format used again and again until no argument is left. -/
def fillAll (format : List Piece) : Nat → List Chars → Chars
  | 0, _ => []
  | fuel + 1, arguments =>
    let (text, left, ends) := fill format arguments
    if ends || left.isEmpty || left.length == arguments.length then text
    else text ++ fillAll format fuel left

/-- What `printf` writes. -/
def printf (format : Chars) (arguments : List Chars) : Chars :=
  fillAll (pieces (format.length + 1) format) (arguments.length + 1) arguments

end Format

end Shell

end Onboarding
