import Onboarding.Text.Split

/-!
# File paths

Paths are text with the slash as separator.  `components` is what a path means: repeated and
trailing slashes and every `.` but a leading one name nothing, and `..` is kept, since what it
names depends on the files.  `parent?` and `ancestor?` cut text and keep the spelling of what is
left; `join` puts a path after another.
-/

namespace Onboarding

namespace Path

/-! ## Components -/

/-- One step of a path. -/
inductive Component where
  | root
  | current
  | parent
  | normal (name : List Char)
  deriving DecidableEq

/-- Text cut at every slash. -/
def pieces (text : List Char) : List (List Char) :=
  Split.pieces (· == '/') text

/-- Whether a path begins at the root. -/
def isAbsolute (path : String) : Bool :=
  path.toList.head? = some '/'

/-- The step that a piece of text names; a single dot names one only where `leading`. -/
def component? (leading : Bool) (piece : List Char) : Option Component :=
  if piece.isEmpty then none
  else if piece = ['.'] then (if leading then some .current else none)
  else if piece = ['.', '.'] then some .parent
  else some (.normal piece)

/-- The steps of a path. -/
def components (path : String) : List Component :=
  match path.toList with
  | '/' :: body => .root :: (pieces body).filterMap (component? false)
  | text =>
    match pieces text with
    | first :: rest => (component? true first).toList ++ rest.filterMap (component? false)
    | [] => []

/-! ## Cutting -/

/-- Pieces without those at the end that name no step.  The first piece may be a leading dot
when `leading`. -/
def dropIdle (leading : Bool) : List (List Char) → List (List Char)
  | [] => []
  | piece :: rest =>
    match dropIdle false rest with
    | [] => if (component? leading piece).isSome then [piece] else []
    | kept => piece :: kept

/-- A path without its last step and what follows it; nothing for a path without a step below
the root. -/
def parent? (path : String) : Option String :=
  let (slash, body, leading) :=
    match path.toList with
    | '/' :: body => (['/'], body, false)
    | text => ([], text, true)
  match dropIdle leading (pieces body) with
  | [] => none
  | steps => some (String.ofList (slash ++ Split.joined '/' (dropIdle leading steps.dropLast)))

/-- A path after `n` times `parent?`. -/
def ancestor? : Nat → String → Option String
  | 0, path => some path
  | n + 1, path => (parent? path).bind (ancestor? n)

/-! ## Joining -/

/-- A path taken from another one; an absolute path stands by itself. -/
def join (base path : String) : String :=
  if isAbsolute path then path
  else if base.isEmpty || base.endsWith "/" then base ++ path
  else base ++ "/" ++ path

end Path

end Onboarding
