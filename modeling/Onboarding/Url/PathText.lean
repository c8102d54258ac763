import Onboarding.Url.Basic

/-!
# Paths of URLs

A path is text that grows by segments.  A segment that is a dot, plain or escaped, adds nothing,
and one that is two dots takes the segment before it away; neither crosses the root.  In a URL of
a file, a drive letter at the root is kept, and slashes in front count once.
-/

namespace Onboarding

namespace Url

/-! ## Segments with a meaning -/

/-- The spellings of a dot. -/
def dots : List (List Char) :=
  [".", "%2e", "%2E"].map String.toList

/-- A segment that stands for the place where it is. -/
def isSingleDot (segment : List Char) : Bool :=
  dots.contains segment

/-- A segment that stands for the place above. -/
def isDoubleDot (segment : List Char) : Bool :=
  dots.any (fun a => dots.any (fun b => a ++ b == segment))

/-- An ASCII letter. -/
def isLetter (c : Char) : Bool :=
  ('a' ≤ c && c ≤ 'z') || ('A' ≤ c && c ≤ 'Z')

/-- A letter and a colon or a bar. -/
def isDriveLetter : List Char → Bool
  | [c, mark] => isLetter c && (mark == ':' || mark == '|')
  | _ => false

/-- Text that begins with a slash and a drive letter that ends there or before a separator. -/
def beginsWithDrive : List Char → Bool
  | '/' :: c :: mark :: rest =>
    isDriveLetter [c, mark] && (rest.isEmpty || "/\\?#".toList.contains (rest.headD '/'))
  | _ => false

/-! ## Taking away -/

/-- A path up to and with its last slash. -/
def upToSlash (path : List Char) : List Char :=
  (path.reverse.dropWhile (· != '/')).reverse

/-- What follows the last slash. -/
def afterSlash (path : List Char) : List Char :=
  (path.reverse.takeWhile (· != '/')).reverse

/-- Whether text ends in a slash. -/
def endsInSlash (path : List Char) : Bool :=
  path.getLast? == some '/'

/-- A path that ends in a slash without it, unless that slash is the root or closes a drive. -/
def dropSlash (path : List Char) : List Char :=
  let before := path.dropLast
  let lastStep := '/' :: afterSlash before ++ ['/']
  if endsInSlash path && before.contains '/' && !beginsWithDrive lastStep then before else path

/-- A path without its last segment, the slash before it kept. -/
def shorten (family : Family) (path : List Char) : List Char :=
  match afterSlash path with
  | [c, ':'] => if family = .file && isLetter c then path else upToSlash path
  | _ => upToSlash path

/-! ## Adding -/

/-- A slash at the end of a path that has none. -/
def withSlash (path : List Char) : List Char :=
  if endsInSlash path then path else path ++ ['/']

/-- A path with one more segment, which a slash may follow. -/
def addSegment (family : Family) (path segment : List Char) (slash : Bool) : List Char :=
  if isDoubleDot segment then
    let path := shorten family (dropSlash path)
    if slash then withSlash path else path
  else if isSingleDot segment then withSlash path
  else
    let segment :=
      match segment with
      | [c, _] => if family = .file && path == ['/'] && isDriveLetter segment then [c, ':'] else segment
      | _ => segment
    path ++ segment ++ (if slash then ['/'] else [])

/-- A path with all of its segments, a slash between every two. -/
def addSegments (family : Family) : List Char → List (List Char) → List Char
  | path, [] => path
  | path, [segment] => addSegment family path segment false
  | path, segment :: rest => addSegments family (addSegment family path segment true) rest

/-- In a URL of a file, one slash in front of the path. -/
def settle (family : Family) (path : List Char) : List Char :=
  if family = .file then '/' :: path.dropWhile (· == '/') else path

end Url

end Onboarding
