import Onboarding.Path
import Onboarding.SystemError
import Onboarding.Text.Utf8

/-!
# File trees

Files and directories as a value.  A place is the list of steps to it from the root; a path is
text, and leads from a directory to a place.  `follow` walks it as an operating system does: every
step but the last has to end in a directory, and `..` goes back.
-/

namespace Onboarding

namespace Sandbox

/-- The steps from the root. -/
abbrev Place : Type :=
  List String

/-- What is at a place. -/
inductive Entry where
  | directory
  | file (content : Bytes) (executable : Bool)
  /-- A program that comes with the system. -/
  | program (name : String)
  /-- A device that is empty when read and forgets what is written. -/
  | void
  deriving DecidableEq

/-- A file tree; the root needs no entry. -/
structure Files where
  entries : List (Place × Entry)

namespace Files

/-! ## Places -/

/-- What is at a place. -/
def entry? (files : Files) (place : Place) : Option Entry :=
  if place.isEmpty then some .directory else files.entries.lookup place

/-- The longest name of a step, in octets. -/
def longestName : Nat :=
  255

/-- The longest path, in octets. -/
def longestPath : Nat :=
  4095

/-- The place where steps end that begin at `here`.  There need not be anything. -/
def follow (files : Files) : Place → List String → Except SystemError Place
  | here, [] => .ok here
  | here, step :: rest =>
    match files.entry? here with
    | none => .error .notFound
    | some .directory =>
      if step.isEmpty || step == "." then files.follow here rest
      else if step == ".." then files.follow here.dropLast rest
      else if longestName < step.utf8ByteSize then .error .nameTooLong
      else files.follow (here ++ [step]) rest
    | some _ => .error .notADirectory

/-- The place that a path names, seen from the directory `here`. -/
def locate (files : Files) (here : Place) (path : String) : Except SystemError Place :=
  if path.toList.contains '\x00' then .error .nulInName
  else if path.isEmpty then .error .notFound
  else if longestPath < path.utf8ByteSize then .error .nameTooLong
  else
    let start := if Path.isAbsolute path then [] else here
    files.follow start ((Path.pieces path.toList).map String.ofList)

/-- What a path names, with its place. -/
def find (files : Files) (here : Place) (path : String) : Except SystemError (Place × Entry) :=
  match files.locate here path with
  | .error cause => .error cause
  | .ok place =>
    match files.entry? place with
    | some entry => .ok (place, entry)
    | none => .error .notFound

/-! ## Reading -/

/-- Whether a path names anything. -/
def exists? (files : Files) (here : Place) (path : String) : Bool :=
  match files.find here path with
  | .ok _ => true
  | .error _ => false

/-- Whether a path names a file with content of its own. -/
def isFile (files : Files) (here : Place) (path : String) : Bool :=
  match files.find here path with
  | .ok (_, .file ..) | .ok (_, .program _) => true
  | _ => false

/-- Whether a path names a directory. -/
def isDirectory (files : Files) (here : Place) (path : String) : Bool :=
  match files.find here path with
  | .ok (_, .directory) => true
  | _ => false

/-- The content of the file that a path names. -/
def read (files : Files) (here : Place) (path : String) : Except SystemError Bytes :=
  match files.find here path with
  | .error cause => .error cause
  | .ok (_, .file content _) => .ok content
  | .ok (_, .directory) => .error .isADirectory
  | .ok (_, .program _) | .ok (_, .void) => .ok []

/-! ## Writing -/

/-- The tree with an entry at a place, in place of what was there. -/
def put (files : Files) (place : Place) (entry : Entry) : Files :=
  ⟨(place, entry) :: files.entries.filter (·.1 != place)⟩

/-- The tree with directories at a place and above it, where nothing is yet. -/
def putDirectories (files : Files) : Place → Place → Files
  | _, [] => files
  | above, step :: rest =>
    let here := above ++ [step]
    let files := if (files.entry? here).isSome then files else files.put here .directory
    files.putDirectories here rest

/-- The tree with an entry at a place, and directories above it. -/
def putBelow (files : Files) (place : Place) (entry : Entry) : Files :=
  (files.putDirectories [] place.dropLast).put place entry

/-- The tree with an empty file at a path, or the content removed from the file there. -/
def truncate (files : Files) (here : Place) (path : String) : Except SystemError (Place × Files) :=
  match files.locate here path with
  | .error cause => .error cause
  | .ok place =>
    match files.entry? place with
    | some (.file _ executable) => .ok (place, files.put place (.file [] executable))
    | some .directory => .error .isADirectory
    | some _ => .ok (place, files)
    | none =>
      if path.endsWith "/" then .error .isADirectory
      else if files.entry? place.dropLast = some .directory then
        .ok (place, files.put place (.file [] false))
      else .error .notFound

/-- The tree with a file at a path, empty when there was none. -/
def ensure (files : Files) (here : Place) (path : String) : Except SystemError (Place × Files) :=
  match files.find here path with
  | .ok (place, .file ..) => .ok (place, files)
  | _ => files.truncate here path

/-- The tree with octets added to the file at a place. -/
def append (files : Files) (place : Place) (octets : Bytes) : Files :=
  match files.entry? place with
  | some (.file content executable) => files.put place (.file (content ++ octets) executable)
  | _ => files

/-- The tree without what is at a place. -/
def remove (files : Files) (place : Place) : Files :=
  ⟨files.entries.filter (·.1 != place)⟩

end Files

end Sandbox

end Onboarding
