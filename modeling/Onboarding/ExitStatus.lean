/-!
# Exit statuses

How a process ended: by itself with a code, or by a signal.
-/

namespace Onboarding

/-- The end of a process. -/
inductive ExitStatus where
  | exited (code : Nat)
  | signalled (number : Nat)
  deriving DecidableEq

namespace ExitStatus

/-- Whether the process says that all went well. -/
def isSuccess : ExitStatus → Bool
  | exited code => code == 0
  | signalled _ => false

/-- The signals by name and number. -/
def signals : List (String × Nat) :=
  [("HUP", 1), ("INT", 2), ("QUIT", 3), ("ILL", 4), ("TRAP", 5), ("ABRT", 6), ("BUS", 7),
    ("FPE", 8), ("KILL", 9), ("USR1", 10), ("SEGV", 11), ("USR2", 12), ("PIPE", 13),
    ("ALRM", 14), ("TERM", 15), ("STKFLT", 16), ("CHLD", 17), ("CONT", 18), ("STOP", 19),
    ("TSTP", 20), ("TTIN", 21), ("TTOU", 22), ("URG", 23), ("XCPU", 24), ("XFSZ", 25),
    ("VTALRM", 26), ("PROF", 27), ("WINCH", 28), ("IO", 29), ("PWR", 30), ("SYS", 31)]

/-- The number of a signal. -/
def signalNumber? (name : String) : Option Nat :=
  signals.lookup name

/-- The name of a signal, with blanks and brackets around it. -/
def signalLabel (number : Nat) : String :=
  match signals.find? (·.2 == number) with
  | some (name, _) => " (SIG" ++ name ++ ")"
  | none => ""

/-- How the end of a process is reported. -/
def text : ExitStatus → String
  | exited code => "exit status: " ++ toString code
  | signalled number => "signal: " ++ toString number ++ signalLabel number

end ExitStatus

end Onboarding
