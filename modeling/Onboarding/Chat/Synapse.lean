import Onboarding.Chat.Basic
import Onboarding.Http.Message
import Onboarding.Json.Writer
import Onboarding.RunError
import Onboarding.Text.Blank
import Onboarding.Url.Below

/-!
# Synapse

The administration interface of a Synapse server, as a chat server: an account is made, or
changed when it exists, by one request.
-/

namespace Onboarding

/-- A server, the name of the users' domain, and the access token of an administrator. -/
structure Synapse where
  base : Url
  serverName : String
  token : Secret
  deriving DecidableEq

namespace Synapse

/-- The server at a URL; the URL has to be one that a path can be put below, the name must not be
blank, and there has to be a token. -/
def make (base serverName : String) (token : Secret) : Except RunError Synapse :=
  match Url.parse base with
  | .error e => .error (.config ("invalid Synapse url " ++ base ++ ": " ++ e.message))
  | .ok url =>
    if !url.hasHierarchy then
      .error (.config ("Synapse url " ++ url.text ++ " cannot carry a path"))
    else if Text.isBlankText serverName then .error (.config "Synapse server name is empty")
    else if token.isEmpty then .error (.config "Synapse admin token is empty")
    else .ok ⟨url, serverName, token⟩

/-- The full name of a user. -/
def userId (s : Synapse) (username : String) : String :=
  "@" ++ username ++ ":" ++ s.serverName

/-- Where the account of a user is. -/
def userUrl (s : Synapse) (username : String) : Url :=
  s.base.below ["_synapse", "admin", "v2", "users", s.userId username]

/-- What an account is made of. -/
def account (password : Secret) : Json :=
  Json.ofMembers
    [("admin", .bool false), ("deactivated", .bool false),
      ("password", Json.text password.reveal)]

/-- The request that makes an account. -/
def accountRequest (s : Synapse) (username : String) (password : Secret) : Http.Request :=
  ⟨"PUT", (s.userUrl username).text,
    [("Authorization", "Bearer " ++ s.token.reveal), ("Content-Type", "application/json")],
    some (account password).encode⟩

/-- The octets of a refusal that are repeated in the message. -/
def refusalPreview : Nat :=
  300

/-- The chat server. -/
def server {σ : Type} (s : Synapse) (send : Http.Transport σ) : Chat σ where
  provision _ username password := do
    let response ← send (s.accountRequest username password)
    if response.status = 200 ∨ response.status = 201 then return .ok ()
    else if response.status = 0 then return .error .unreachable
    else return .error (.rejected response.status (response.preview refusalPreview))

end Synapse

end Onboarding
