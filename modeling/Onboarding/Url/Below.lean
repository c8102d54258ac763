import Onboarding.Text.Form
import Onboarding.Url.Parser

/-!
# Building on a URL

New URLs from one that is given: `below` puts segments under its path, and `withPairs` adds pairs
to its query.  Both keep scheme, authority and fragment.
-/

namespace Onboarding

namespace Url

/-- A path without the slash at its end, unless it is the root alone. -/
def dropEmpty (path : List Char) : List Char :=
  if endsInSlash (path.drop 1) then path.dropLast else path

/-- A path with a slash at its end, behind which a segment can stand; the root has that slash. -/
def opened (path : List Char) : List Char :=
  if path.isEmpty || 1 < path.length then path ++ ['/'] else path

/-- What is written for a segment of any text: tabs and line ends do not count, and all that
separates is escaped. -/
def segmentText (family : Family) (segment : String) : List Char :=
  let escapes := if family.isSpecial then Percent.specialSegment else Percent.segment
  Percent.encode escapes (segment.toList.filter (!isIgnored ·))

/-- A path with one more segment of any text.  A dot and two dots add nothing. -/
def extend (family : Family) (path : List Char) (segment : String) : List Char :=
  if segment = "." ∨ segment = ".." then path
  else settle family (addSegment family (opened path) (segmentText family segment) false)

/-- A URL with segments under its path; nothing when no path can be put below it. -/
def below? (u : Url) (segments : List String) : Option Url :=
  if u.hasHierarchy then
    some { u with path := segments.foldl (extend (family u.scheme)) (dropEmpty u.path) }
  else none

/-- A URL with segments under its path, or the URL itself when no path can be put below it. -/
def below (u : Url) (segments : List String) : Url :=
  (u.below? segments).getD u

/-- A URL with pairs added to its query. -/
def withPairs (u : Url) (pairs : List (String × String)) : Url :=
  { u with query := some (pairs.foldl Form.append (u.query.getD [])) }

end Url

end Onboarding
