/-!
# Errors of the operating system

Why the operating system refuses to open, read or start a file, with the wording and the number
that it is reported by.
-/

namespace Onboarding

/-- A refusal of the operating system. -/
inductive SystemError where
  | notFound
  | notExecutable
  | permissionDenied
  | notADirectory
  | isADirectory
  | nameTooLong
  /-- A file name that holds a NUL octet. -/
  | nulInName
  /-- An argument of a program that holds a NUL octet. -/
  | nulInArgument
  /-- Any other refusal, in the words of the system. -/
  | other (text : String)
  deriving DecidableEq

namespace SystemError

/-- The reported text. -/
def message : SystemError → String
  | notFound => "No such file or directory (os error 2)"
  | notExecutable => "Exec format error (os error 8)"
  | permissionDenied => "Permission denied (os error 13)"
  | notADirectory => "Not a directory (os error 20)"
  | isADirectory => "Is a directory (os error 21)"
  | nameTooLong => "File name too long (os error 36)"
  | nulInName => "file name contained an unexpected NUL byte"
  | nulInArgument => "nul byte found in provided data"
  | other text => text

end SystemError

end Onboarding
