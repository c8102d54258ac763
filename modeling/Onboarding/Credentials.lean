import Onboarding.Text.Blank
import Onboarding.Text.Quoted
import Onboarding.RunError
import Onboarding.Secret

/-!
# Administrator credentials

The identity under which a run asks for its access token: a user with a password, or a client
with a secret.  A full pair of user name and password wins; values that are blank count as
absent, and all others are kept as they were given.
-/

namespace Onboarding

/-- The identity that asks for an access token. -/
inductive Credentials where
  | resourceOwner (username : String) (password : Secret)
  | clientCredentials (clientId : String) (clientSecret : Secret)
  deriving DecidableEq

namespace Credentials

/-- The public client in whose name users ask. -/
def adminClient : String :=
  "admin-cli"

/-- A value that is there and not blank. -/
def present? (value : Option String) : Option String :=
  value.filter (fun s => !Text.isBlankText s)

/-- The credentials among four optional values. -/
def select (adminUsername adminPassword clientId clientSecret : Option String) :
    Except RunError Credentials :=
  match present? adminUsername, present? adminPassword with
  | some username, some password => .ok (.resourceOwner username ⟨password⟩)
  | _, _ =>
    match present? clientId, present? clientSecret with
    | some id, some secret => .ok (.clientCredentials id ⟨secret⟩)
    | _, _ => .error .missingCredentials

/-- The name of the grant that is asked for. -/
def grantType : Credentials → String
  | resourceOwner .. => "password"
  | clientCredentials .. => "client_credentials"

/-- The form that asks for a token, in order. -/
def formFields (c : Credentials) : List (String × String) :=
  ("grant_type", c.grantType) ::
    match c with
    | resourceOwner username password =>
      [("client_id", adminClient), ("username", username), ("password", password.reveal)]
    | clientCredentials clientId clientSecret =>
      [("client_id", clientId), ("client_secret", clientSecret.reveal)]

/-- How credentials are shown: without their secret. -/
def shown : Credentials → String
  | resourceOwner username password =>
    "ResourceOwner \x7b username: " ++ Text.quoted username ++ ", password: " ++ password.text
      ++ " \x7d"
  | clientCredentials clientId clientSecret =>
    "ClientCredentials \x7b client_id: " ++ Text.quoted clientId ++ ", client_secret: "
      ++ clientSecret.text ++ " \x7d"

end Credentials

end Onboarding
