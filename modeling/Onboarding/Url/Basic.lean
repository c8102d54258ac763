import Onboarding.Url.Host

/-!
# URLs

A URL as its parts, each as it is written.  `text` writes it; the modules beside this one read
URLs and extend them.
-/

namespace Onboarding

/-- What stands between `//` and the path: user information, host and port. -/
structure Authority where
  username : List Char
  password : Option (List Char)
  host : Url.Host
  port : Option Nat
  deriving DecidableEq

/-- A URL.  The path is text from its first slash on; where there is no authority, it may be any
text, and then nothing can be put below it. -/
structure Url where
  scheme : List Char
  authority : Option Authority
  path : List Char
  query : Option (List Char)
  fragment : Option (List Char)
  deriving DecidableEq

namespace Url

/-! ## Schemes -/

/-- How the text after a scheme is read. -/
inductive Family where
  /-- Web schemes: a host is required, and a backslash counts as a slash. -/
  | web
  /-- Files: as for the web schemes, but without user information and with an optional host. -/
  | file
  | other
  deriving DecidableEq

/-- The family of a scheme in lower case. -/
def family (scheme : List Char) : Family :=
  let name := String.ofList scheme
  if name = "file" then .file
  else if ["http", "https", "ws", "wss", "ftp"].contains name then .web
  else .other

/-- Whether a family follows the rules of the web. -/
def Family.isSpecial : Family → Bool
  | .other => false
  | _ => true

/-- The port that a scheme implies. -/
def defaultPort? (scheme : List Char) : Option Nat :=
  let name := String.ofList scheme
  if name = "http" ∨ name = "ws" then some 80
  else if name = "https" ∨ name = "wss" then some 443
  else if name = "ftp" then some 21
  else none

/-! ## Writing -/

/-- User information and the sign after it, when there is any. -/
def userinfoText (a : Authority) : List Char :=
  match a.password with
  | some password => a.username ++ ':' :: password ++ ['@']
  | none => if a.username.isEmpty then [] else a.username ++ ['@']

/-- An authority with the slashes before it. -/
def authorityText (a : Authority) : List Char :=
  '/' :: '/' :: userinfoText a ++ a.host.text ++
    match a.port with
    | some port => ':' :: Numeral.decimal port
    | none => []

/-- Where there is no authority, a path with two slashes in front is kept from being read as one
by a dot before it. -/
def pathText (u : Url) : List Char :=
  if u.authority.isNone && u.path.take 2 == ['/', '/'] then '/' :: '.' :: u.path else u.path

/-- A part with its mark in front, when it is there. -/
def marked (mark : Char) : Option (List Char) → List Char
  | some part => mark :: part
  | none => []

/-- A URL as text. -/
def chars (u : Url) : List Char :=
  u.scheme ++ ':' :: ((u.authority.map authorityText).getD []) ++ u.pathText
    ++ marked '?' u.query ++ marked '#' u.fragment

/-- A URL as a string. -/
def text (u : Url) : String :=
  String.ofList u.chars

/-- Whether a path can be put below the URL. -/
def hasHierarchy (u : Url) : Bool :=
  u.authority.isSome || u.path.head? == some '/'

end Url

end Onboarding
