import Onboarding.Chat.Script
import Onboarding.Chat.Synapse
import Onboarding.Identity.Keycloak

/-!
# Requests

The requests of both clients in full: the method, the address as the base URL and what is put below
it, the headers, and the members of the body.  The command that starts the script is here too.  What
is said about the traffic of a run is said in these terms, and each client is shown to ask in them.
-/

namespace Onboarding

open Http (Request)

namespace Keycloak

variable (k : Keycloak) (session : Session)

/-- The request for a token. -/
def postToken (credentials : Credentials) : Request where
  method := "POST"
  url := (k.base.below ["realms", k.realm, "protocol", "openid-connect", "token"]).text
  headers := [("Content-Type", "application/x-www-form-urlencoded")]
  body := some (Utf8.encode (Form.encode credentials.formFields))

/-- The search for the users of exactly one name. -/
def getUsers (username : String) : Request where
  method := "GET"
  url := ((k.base.below ["admin", "realms", k.realm, "users"]).withPairs
    [("username", username), ("exact", "true")]).text
  headers := [("Authorization", "Bearer " ++ session.token.reveal)]
  body := none

/-- A new user, enabled and with a mail address that counts as verified. -/
def postUser (username : String) : Request where
  method := "POST"
  url := (k.base.below ["admin", "realms", k.realm, "users"]).text
  headers := [("Authorization", "Bearer " ++ session.token.reveal),
    ("Content-Type", "application/json")]
  body := some (Json.ofMembers
    [("emailVerified", .bool true), ("enabled", .bool true),
      ("username", Json.text username)]).encode

/-- A password for the user of an id, not a temporary one. -/
def putPassword (id : String) (password : Secret) : Request where
  method := "PUT"
  url := (k.base.below ["admin", "realms", k.realm, "users", id, "reset-password"]).text
  headers := [("Authorization", "Bearer " ++ session.token.reveal),
    ("Content-Type", "application/json")]
  body := some (Json.ofMembers
    [("temporary", .bool false), ("type", Json.text "password"),
      ("value", Json.text password.reveal)]).encode

theorem tokenRequest_eq (credentials : Credentials) :
    k.tokenRequest credentials = k.postToken credentials := rfl

theorem searchRequest_eq (username : String) :
    k.searchRequest session username = k.getUsers session username := rfl

theorem createRequest_eq (username : String) :
    k.createRequest session username = k.postUser session username := rfl

theorem passwordRequest_eq (id : String) (password : Secret) :
    k.passwordRequest session id password = k.putPassword session id password := rfl

end Keycloak

namespace Synapse

variable (c : Synapse)

/-- An account that is active and no administrator's, with a password. -/
def putAccount (username : String) (password : Secret) : Request where
  method := "PUT"
  url := (c.base.below
    ["_synapse", "admin", "v2", "users", "@" ++ username ++ ":" ++ c.serverName]).text
  headers := [("Authorization", "Bearer " ++ c.token.reveal), ("Content-Type", "application/json")]
  body := some (Json.ofMembers
    [("admin", .bool false), ("deactivated", .bool false),
      ("password", Json.text password.reveal)]).encode

theorem accountRequest_eq (username : String) (password : Secret) :
    c.accountRequest username password = c.putAccount username password := rfl

end Synapse

namespace Chat.Script

/-- The command that makes an account by the script of a repository. -/
def command (root : String) (env : Environment) (username : String) (password : Secret) :
    Invocation where
  program := Path.join root "create-matrix-user.sh"
  arguments := ["--env", env.name, "-p", password.reveal, username]
  bindings := [("KUBECONFIG", Path.join root ("kubeconfig." ++ env.name ++ ".yaml"))]

theorem invocation_eq (root : String) (env : Environment) (username : String) (password : Secret) :
    invocation root env username password = command root env username password := rfl

end Chat.Script

end Onboarding
