import Onboarding.Csv.Row
import Onboarding.Secret
import Onboarding.SystemError
import Onboarding.Text.Quoted

/-!
# The roster

The accounts that a run makes: user names and passwords from headerless comma-separated rows.
A row counts when its first two fields are not blank; further fields are ignored.
-/

namespace Onboarding

/-- One account to make. -/
structure Record where
  username : String
  password : Secret
  deriving DecidableEq

/-- How a record is shown: without its password. -/
def Record.shown (r : Record) : String :=
  "Record \x7b username: " ++ Text.quoted r.username ++ ", password: " ++ r.password.text
    ++ " \x7d"

/-- The record of a row, when its first two fields are there and not empty. -/
def Record.ofFields? : List String → Option Record
  | username :: password :: _ =>
    if username.isEmpty || password.isEmpty then none else some ⟨username, ⟨password⟩⟩
  | _ => none

namespace Roster

/-- Why a row could not be read. -/
inductive RowCause where
  | system (cause : SystemError)
  | malformed (fault : Csv.Fault)
  deriving DecidableEq

/-- A row, counted from one, that could not be read. -/
structure RowError where
  row : Nat
  cause : RowCause
  deriving DecidableEq

/-- What is said about a row that could not be read. -/
def RowError.message (e : RowError) : String :=
  "read input row " ++ toString e.row ++ ": " ++
    match e.cause with
    | .system cause => cause.message
    | .malformed fault => fault.message

/-- The records of rows of which `done` came before, or the first row that is not text. -/
def recordsFrom : Nat → List Csv.Row → Except RowError (List Record)
  | _, [] => .ok []
  | done, row :: rest =>
    match row.texts with
    | .error fault => .error ⟨done + 1, .malformed fault⟩
    | .ok fields =>
      match recordsFrom (done + 1) rest with
      | .error e => .error e
      | .ok records => .ok ((Record.ofFields? fields).toList ++ records)

/-- The records of an input, in order, or the first row that is not text. -/
def parse (bytes : Bytes) : Except RowError (List Record) :=
  recordsFrom 0 (Csv.rows bytes)

/-- Why a roster file gives no records. -/
inductive LoadError where
  | unopened (path : String) (cause : SystemError)
  | unread (path : String) (cause : RowError)
  deriving DecidableEq

/-- What is said about a roster file that gives no records. -/
def LoadError.message : LoadError → String
  | .unopened path cause => "open input file " ++ path ++ ": " ++ cause.message
  | .unread path cause => "parse input file " ++ path ++ ": " ++ cause.message

/-- The records of a file, given what reading the file came to.  A directory can be opened, and
is refused at the first row. -/
def ofFile (path : String) : Except SystemError Bytes → Except LoadError (List Record)
  | .ok bytes =>
    match parse bytes with
    | .ok records => .ok records
    | .error e => .error (.unread path e)
  | .error .isADirectory => .error (.unread path ⟨1, .system .isADirectory⟩)
  | .error cause => .error (.unopened path cause)

end Roster

end Onboarding
