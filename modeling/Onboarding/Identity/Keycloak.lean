import Onboarding.Credentials
import Onboarding.Http.Message
import Onboarding.Identity.Basic
import Onboarding.Json.Reader
import Onboarding.Json.Writer
import Onboarding.Url.Below

/-!
# Keycloak

The administration interface of a Keycloak server, as an identity server.  A run asks for one
access token and shows it with every request; it is never renewed, so that requests after its end
fail like any other.
-/

namespace Onboarding

/-- A server and one of its realms. -/
structure Keycloak where
  base : Url
  realm : String
  deriving DecidableEq

namespace Keycloak

/-- The server at a URL; the URL has to be one that a path can be put below, and the realm must
not be blank. -/
def make (base realm : String) : Except RunError Keycloak :=
  match Url.parse base with
  | .error e => .error (.config ("invalid Keycloak base url " ++ base ++ ": " ++ e.message))
  | .ok url =>
    if !url.hasHierarchy then
      .error (.config ("Keycloak base url " ++ url.text ++ " cannot carry a path"))
    else if Text.isBlankText realm then .error (.config "Keycloak realm is empty")
    else .ok ⟨url, realm⟩

/-! ## Addresses -/

/-- Where tokens are granted. -/
def tokenUrl (k : Keycloak) : Url :=
  k.base.below ["realms", k.realm, "protocol", "openid-connect", "token"]

/-- Where users are searched and made. -/
def usersUrl (k : Keycloak) : Url :=
  k.base.below ["admin", "realms", k.realm, "users"]

/-- Where the user of an id gets a password. -/
def passwordUrl (k : Keycloak) (id : String) : Url :=
  k.base.below ["admin", "realms", k.realm, "users", id, "reset-password"]

/-- Where the users of exactly one name are listed. -/
def searchUrl (k : Keycloak) (username : String) : Url :=
  k.usersUrl.withPairs [("username", username), ("exact", "true")]

/-! ## Tokens -/

/-- An access token, and for how many seconds it was granted. -/
structure Session where
  token : Secret
  expiresIn : Option Nat
  deriving DecidableEq

/-- A token that is known beforehand. -/
def Session.ofToken (token : String) : Session :=
  ⟨⟨token⟩, none⟩

/-- The header that shows the token. -/
def Session.authorization (s : Session) : String × String :=
  ("Authorization", "Bearer " ++ s.token.reveal)

/-- How a session is shown: without its token. -/
def Session.shown (s : Session) : String :=
  "AdminSession \x7b token: " ++ s.token.text ++ ", expires_in: " ++
    (match s.expiresIn with
      | some n => "Some(" ++ toString n ++ ")"
      | none => "None") ++ " \x7d"

/-- A value that may be missing or null; a failure when it is anything else that `read` does not
take. -/
def optional? {α : Type} (read : Json → Option α) : Option Json → Option (Option α)
  | none | some .null => some none
  | some value => (read value).map some

/-- A number of seconds: a natural number that fits in 64 bits. -/
def seconds? : Json → Option Nat
  | .number n => n.natural?.filter (· < UInt64.size)
  | _ => none

/-- The token and the seconds of a grant: an object with these members among others, or an array
of the two. -/
def grant? : Json → Option (Option String × Option Nat)
  | .object members => do
    let members ← Json.namedMembers members
    let token ← optional? Json.text? (← Json.only? "access_token" members)
    let expiresIn ← optional? seconds? (← Json.only? "expires_in" members)
    return (token, expiresIn)
  | .array items =>
    if 2 < items.length then none
    else do
      let token ← optional? Json.text? items[0]?
      let expiresIn ← optional? seconds? items[1]?
      return (token, expiresIn)
  | _ => none

/-- The octets of a refusal that are repeated in the message. -/
def refusalPreview : Nat :=
  300

/-- The request for a token. -/
def tokenRequest (k : Keycloak) (credentials : Credentials) : Http.Request :=
  ⟨"POST", k.tokenUrl.text, [("Content-Type", "application/x-www-form-urlencoded")],
    some (Utf8.encode (Form.encode credentials.formFields))⟩

/-- Asks for a token. -/
def authenticate {σ : Type} (k : Keycloak) (send : Http.Transport σ) (credentials : Credentials) :
    Act Notice σ (Except RunError Session) := do
  let response ← send (k.tokenRequest credentials)
  if response.status ≠ 200 then
    return .error (.authenticationFailed response.status (response.preview refusalPreview))
  else
    match (Json.parse? response.body).bind grant? with
    | none =>
      Act.report (.tokenUnreadable response.body)
      return .error .emptyToken
    | some (token, expiresIn) =>
      match token.filter (!·.isEmpty) with
      | some token => return .ok ⟨⟨token⟩, expiresIn⟩
      | none => return .error .emptyToken

/-! ## Users -/

/-- A user: an object with an id and perhaps a name among other members, or an array of these. -/
def user? : Json → Option User
  | .object members => do
    let members ← Json.namedMembers members
    let id ← (← Json.only? "id" members).bind Json.text?
    match ← Json.only? "username" members with
    | none => return ⟨id, ""⟩
    | some value => return ⟨id, ← value.text?⟩
  | .array [id] => id.text?.map (⟨·, ""⟩)
  | .array [id, username] => do return ⟨← id.text?, ← username.text?⟩
  | _ => none

/-- The users of an array, when all of its items are users. -/
def users? : Json → Option (List User)
  | .array items => items.mapM user?
  | _ => none

/-- The id at the end of a location: what follows the last slash, slashes at the end apart. -/
def idOfLocation? (location : String) : Option String :=
  let id := ((location.toList.reverse.dropWhile (· == '/')).takeWhile (· != '/')).reverse
  if id.isEmpty then none else some (String.ofList id)

/-- The header of a request with a JSON body. -/
def jsonBody : String × String :=
  ("Content-Type", "application/json")

/-- What a new user is made of. -/
def newUser (username : String) : Json :=
  Json.ofMembers
    [("emailVerified", .bool true), ("enabled", .bool true), ("username", Json.text username)]

/-- What a new password is made of; the user need not change it. -/
def newPassword (password : Secret) : Json :=
  Json.ofMembers
    [("temporary", .bool false), ("type", Json.text "password"),
      ("value", Json.text password.reveal)]

/-- The request that lists the users of a name. -/
def searchRequest (k : Keycloak) (session : Session) (username : String) : Http.Request :=
  ⟨"GET", (k.searchUrl username).text, [session.authorization], none⟩

/-- The request that makes a user. -/
def createRequest (k : Keycloak) (session : Session) (username : String) : Http.Request :=
  ⟨"POST", k.usersUrl.text, [session.authorization, jsonBody], some (newUser username).encode⟩

/-- The request that sets a password. -/
def passwordRequest (k : Keycloak) (session : Session) (id : String) (password : Secret) :
    Http.Request :=
  ⟨"PUT", (k.passwordUrl id).text, [session.authorization, jsonBody],
    some (newPassword password).encode⟩

section Server

variable {σ : Type} (k : Keycloak) (send : Http.Transport σ) (session : Session)

/-- The first user that a search lists.  An answer that lists none, or cannot be read, or is a
refusal, counts as no user. -/
def find (username : String) : Act Notice σ (Option User) := do
  let response ← send (k.searchRequest session username)
  if response.status ≠ 200 then
    Act.report (.searchRefused username response.status)
    return none
  else
    match (Json.parse? response.body).bind users? with
    | some users => return users.head?
    | none =>
      Act.report (.searchUnreadable username response.body)
      return none

/-- The id of a user that is known to exist. -/
def resolve (username : String) : Act Notice σ (Except IdentityError String) := do
  match ← find k send session username with
  | some user => return .ok user.id
  | none => return .error (.unresolved username)

/-- Makes a user.  The id is the end of the location in the answer; when there is none, or the
user exists already, a search gives it. -/
def create (username : String) : Act Notice σ (Except IdentityError String) := do
  let response ← send (k.createRequest session username)
  if response.status = 201 then
    match (response.header? "Location").bind idOfLocation? with
    | some id => return .ok id
    | none => resolve k send session username
  else if response.status = 409 then
    Act.report (.userExists username)
    resolve k send session username
  else return .error (.createRejected response.status)

/-- Sets a password. -/
def setPassword (id : String) (password : Secret) : Act Notice σ (Except IdentityError Unit) := do
  let response ← send (k.passwordRequest session id password)
  if response.status = 200 ∨ response.status = 204 then return .ok ()
  else return .error (.passwordRejected response.status)

/-- The identity server that a session gives access to. -/
def server : Identity σ where
  find := find k send session
  create := create k send session
  setPassword := setPassword k send session

end Server

end Keycloak

end Onboarding
