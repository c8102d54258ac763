import Onboarding.Chat.Backend

/-!
# Settings

Defaults that hold no secret, from a file that need not exist.  What the command line gives wins
over each of them.
-/

namespace Onboarding

/-- Where a Synapse server is and for which domain it serves. -/
structure SynapseSettings where
  baseUrl : Option String
  serverName : Option String
  deriving DecidableEq

/-- How chat accounts are made. -/
structure ChatSettings where
  backend : Option Chat.Backend
  synapse : SynapseSettings
  deriving DecidableEq

/-- All settings. -/
structure Settings where
  keycloakUrl : Option String
  realm : Option String
  repository : Option String
  /-- For how many seconds a request may last. -/
  timeout : Option Nat
  chat : ChatSettings
  deriving DecidableEq

/-- No settings for Synapse. -/
def SynapseSettings.unset : SynapseSettings :=
  ⟨none, none⟩

/-- No settings for chat. -/
def ChatSettings.unset : ChatSettings :=
  ⟨none, .unset⟩

/-- No settings. -/
def Settings.unset : Settings :=
  ⟨none, none, none, none, .unset⟩

end Onboarding
