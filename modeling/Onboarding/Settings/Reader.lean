import Onboarding.Settings.Basic
import Onboarding.Yaml.Scalar

/-!
# Reading settings

Settings are a YAML mapping; a text that writes nothing has none.  Names of other things are
ignored, but every name has to be text, and a known name may occur once.  Under the name `<<`
stand mappings whose entries count where the mapping itself has none of their name.
-/

namespace Onboarding

namespace Settings

open Yaml (Node)

/-- The entries of a mapping by their names: its own, and those of mappings merged into it. -/
structure Entries where
  own : List (String × Node)
  merged : List (String × Node)

/-- The name under which mappings are merged. -/
def mergeName : String :=
  "<<"

/-- Whether a key asks for mappings to be merged. -/
def isMerge : Node → Bool
  | .scalar none true text => text == mergeName
  | _ => false

/-- All entries, a mapping's own ones first. -/
def Entries.all (e : Entries) : List (String × Node) :=
  e.own ++ e.merged

mutual

/-- The entries of a list of entries. -/
def entries? : List (Node × Node) → Option Entries
  | [] => some ⟨[], []⟩
  | (key, value) :: rest =>
    match entries? rest with
    | none => none
    | some more =>
      if isMerge key then
        (merged? value).map fun found =>
          { more with merged := found ++ more.merged }
      else key.text?.map fun name => { more with own := (name, value) :: more.own }

/-- The entries that a node gives to the mapping that it is merged into. -/
def merged? : Node → Option (List (String × Node))
  | .mapping _ entries => (entries? entries).map Entries.all
  | .sequence _ items => mergedAll? items
  | .scalar .. => none

/-- The entries that a list of nodes gives. -/
def mergedAll? : List Node → Option (List (String × Node))
  | [] => some []
  | item :: rest =>
    match merged? item, mergedAll? rest with
    | some found, some more => some (found ++ more)
    | _, _ => none

end

/-- The value of a name, null when it is missing; a failure when the mapping itself has more than
one. -/
def Entries.value? (e : Entries) (name : String) : Option Node :=
  match e.own.filter (·.1 == name) with
  | [] => some ((e.merged.lookup name).getD (.empty none))
  | [(_, value)] => some value
  | _ => none

/-- A structure with a value for every name: from the entries of a mapping, or what there is
without settings. -/
def structure? {α : Type} (unset : α) (read : Entries → Option α) (node : Node) : Option α :=
  if node.isNull then some unset
  else
    match node with
    | .mapping _ entries => (entries? entries).bind read
    | _ => none

/-- The backend that a node names: by its text, by its tag, or as the only name in a mapping. -/
def backend? : Node → Option Chat.Backend
  | .scalar none _ text => Choice.ofName? false text
  | .scalar (some tag) plain text =>
    match tag.toList with
    | '!' :: name =>
      if plain && Yaml.Scalar.isNull text.toList then
        Choice.ofName? false (String.ofList name)
      else none
    | _ => Choice.ofName? false text
  | .mapping none [(key, value)] =>
    if value.isNull then key.text?.bind (Choice.ofName? false) else none
  | _ => none

/-- A timeout: a number of seconds that fits in 64 bits. -/
def timeout? (node : Node) : Option Nat :=
  node.natural?.filter (· < UInt64.size)

/-- The settings for Synapse. -/
def synapse? : Node → Option SynapseSettings :=
  structure? .unset fun e => do
    let baseUrl ← Node.optional? Node.text? (← e.value? "base_url")
    let serverName ← Node.optional? Node.text? (← e.value? "server_name")
    return ⟨baseUrl, serverName⟩

/-- The settings for chat. -/
def chat? : Node → Option ChatSettings :=
  structure? .unset fun e => do
    let backend ← Node.optional? backend? (← e.value? "backend")
    let synapse ← synapse? (← e.value? "synapse")
    return ⟨backend, synapse⟩

/-- The settings of a node. -/
def ofNode? : Node → Option Settings :=
  structure? .unset fun e => do
    let keycloakUrl ← Node.optional? Node.text? (← e.value? "kc_base_url")
    let realm ← Node.optional? Node.text? (← e.value? "realm")
    let repository ← Node.optional? Node.text? (← e.value? "repo_root")
    let timeout ← Node.optional? timeout? (← e.value? "http_timeout_secs")
    let chat ← chat? (← e.value? "chat")
    return ⟨keycloakUrl, realm, repository, timeout, chat⟩

/-- The settings that a text writes. -/
def parse? (text : String) : Option Settings :=
  (Node.document? text.toList).bind fun
    | none => some .unset
    | some node => ofNode? node

end Settings

end Onboarding
