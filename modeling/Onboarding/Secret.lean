/-!
# Secrets

Passwords, client secrets and access tokens.  A `Secret` is shown as a fixed text, whatever it
holds; only `reveal` gives its value back.
-/

namespace Onboarding

/-- A value that is never shown. -/
structure Secret where
  reveal : String
  deriving DecidableEq

namespace Secret

/-- What is shown in place of any secret. -/
def text (_ : Secret) : String :=
  "[REDACTED]"

/-- Whether there is nothing to hide. -/
def isEmpty (s : Secret) : Bool :=
  s.reveal.isEmpty

end Secret

end Onboarding
