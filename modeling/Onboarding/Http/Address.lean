import Onboarding.Text.Utf8

/-!
# Addresses

Where a request goes: the scheme and the authority of an absolute web URL, and its target, the
path with the query.  A fragment is never sent.
-/

namespace Onboarding

namespace Http

/-- Where a request goes. -/
structure Address where
  secure : Bool
  authority : List Char
  target : List Char
  deriving DecidableEq

namespace Address

/-- A character of an authority. -/
def isAuthorityChar (c : Char) : Bool :=
  c.isAlphanum || "-._~!$&'()*+,;=:@[]%".toList.contains c

/-- A character of a path: any visible one of ASCII but for four. -/
def isPathChar (c : Char) : Bool :=
  0x21 ≤ c.toNat && c.toNat ≤ 0x7E && !"#<>\x60".toList.contains c

/-- A character of a query: any visible one of ASCII but for four. -/
def isQueryChar (c : Char) : Bool :=
  0x21 ≤ c.toNat && c.toNat ≤ 0x7E && !"#<>\"".toList.contains c

/-- A character that ends an authority. -/
def endsAuthority (c : Char) : Bool :=
  c == '/' || c == '?' || c == '#'

/-- The rest of a text behind one in lower case, whatever the case of the letters in front. -/
def after? (start : String) (text : List Char) : Option (List Char) :=
  let n := start.length
  if (text.take n).map Char.toLower = start.toList then some (text.drop n) else none

/-- What follows an authority as a target. -/
def targetOf (text : List Char) : List Char :=
  match text.takeWhile (· != '#') with
  | [] => ['/']
  | '/' :: rest => '/' :: rest
  | rest => '/' :: rest

/-- The address of an authority and what follows it. -/
def make? (secure : Bool) (text : List Char) : Option Address :=
  let authority := text.takeWhile (!endsAuthority ·)
  let target := targetOf (text.drop authority.length)
  let path := target.takeWhile (· != '?')
  let query := target.drop path.length
  if !authority.isEmpty && authority.all isAuthorityChar && path.all isPathChar
      && query.all isQueryChar then some ⟨secure, authority, target⟩
  else none

/-- The address of an absolute web URL. -/
def ofText? (text : List Char) : Option Address :=
  match after? "http://" text, after? "https://" text with
  | some rest, _ => make? false rest
  | none, some rest => make? true rest
  | none, none => none

/-- The scheme with the colon. -/
def scheme (a : Address) : List Char :=
  (if a.secure then "https:" else "http:").toList

/-- The path of the target. -/
def path (a : Address) : List Char :=
  a.target.takeWhile (· != '?')

/-- A path without dots: one dot names nothing, two take back the step before. -/
def withoutDots : List (List Char) → List (List Char) → List (List Char)
  | done, [] => done.reverse
  | done, [last] =>
    if last = ['.'] then ([] :: done).reverse
    else if last = ['.', '.'] then ([] :: done.tail).reverse
    else (last :: done).reverse
  | done, step :: rest =>
    if step = ['.'] then withoutDots done rest
    else if step = ['.', '.'] then withoutDots done.tail rest
    else withoutDots (step :: done) rest

/-- The steps of a path behind its first slash. -/
def steps (path : List Char) : List (List Char) :=
  ((String.ofList (path.drop 1)).splitOn "/").map String.toList

/-- A target with a path without dots. -/
def settled (target : List Char) : List Char :=
  let path := target.takeWhile (· != '?')
  let query := target.drop path.length
  '/' :: ['/'].intercalate (withoutDots [] (steps path)) ++ query

/-- Where a location leads that an answer from an address gives: a whole URL, or what of the
address is to be replaced. -/
def follow? (a : Address) (location : List Char) : Option Address :=
  match ofText? location with
  | some there => some there
  | none =>
    match location with
    | '/' :: '/' :: _ => ofText? (a.scheme ++ location)
    | _ =>
      let base := a.scheme ++ '/' :: '/' :: a.authority
      let target :=
        match location with
        | '/' :: _ => location
        | '?' :: _ => a.path ++ location
        | [] => a.target
        | _ => (a.path.reverse.dropWhile (· != '/')).reverse ++ location
      ofText? (base ++ settled (target.takeWhile (· != '#')))

end Address

end Http

end Onboarding
