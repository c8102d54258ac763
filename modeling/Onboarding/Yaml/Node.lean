import Onboarding.Yaml.Token

/-!
# YAML nodes

The value that a text writes: scalars, sequences and mappings.  `Node.document?` reads a text of
at most one document; an alias becomes the node that it names.
-/

namespace Onboarding

namespace Yaml

/-- A value with the tag that it is given, when it is given one.  A scalar remembers whether it
was written without quotes. -/
inductive Node where
  | scalar (tag : Option String) (plain : Bool) (text : String)
  | sequence (tag : Option String) (items : List Node)
  | mapping (tag : Option String) (entries : List (Node × Node))

namespace Node

/-- Nothing, where a value is expected. -/
def empty (tag : Option String) : Node :=
  .scalar tag true ""

/-! ## Reading -/

/-- The tokens that are left, and the nodes that have names; an open node has none yet. -/
structure Builder where
  rest : List Token
  names : List (List Char × Option Node)

/-- A reader of nodes. -/
abbrev Build : Type → Type :=
  StateT Builder Option

namespace Build

/-- The next token. -/
def next? : Build (Option Token) := do
  return (← get).rest.head?

/-- Whether the next token is one of some. -/
def isNext (tokens : List Token) : Build Bool := do
  return (← next?).any tokens.contains

/-- Steps over a token. -/
def skip : Build Unit :=
  modify fun b => { b with rest := b.rest.tail }

/-- Steps over a token, when it is next. -/
def accept (t : Token) : Build Bool := do
  if (← next?) = some t then
    skip
    return true
  else return false

/-- Steps over a token that has to be next. -/
def expect (t : Token) : Build Unit := do
  if ← accept t then return ()
  failure

/-- The node of a name. -/
def named (name : List Char) : Build Node := do
  match (← get).names.lookup name with
  | some (some node) => return node
  | _ => failure

/-- Gives a name to a node, or keeps it for one that is open. -/
def setName (name : Option (List Char)) (node : Option Node) : Build Unit :=
  match name with
  | some name => modify fun b => { b with names := (name, node) :: b.names }
  | none => return ()

/-- A tag in full; its handle has to stand for something. -/
def fullTag (shorthands : List (List Char × List Char)) (handle suffix : List Char) :
    Build String := do
  if handle.isEmpty then return String.ofList suffix
  match shorthands.lookup handle with
  | some start => return String.ofList (start ++ suffix)
  | none => failure

/-- The name and the tag in front of a node, in either order. -/
def properties (shorthands : List (List Char × List Char)) :
    Build (Option (List Char) × Option String) := do
  match ← next? with
  | some (.anchor name) =>
    skip
    match ← next? with
    | some (.tag handle suffix) =>
      skip
      return (some name, some (← fullTag shorthands handle suffix))
    | _ => return (some name, none)
  | some (.tag handle suffix) =>
    skip
    let tag ← fullTag shorthands handle suffix
    match ← next? with
    | some (.anchor name) =>
      skip
      return (some name, some tag)
    | _ => return (none, some tag)
  | _ => return (none, none)

mutual

/-- A node.  Block collections can begin only where `block`, and a sequence without indentation
of its own only where `bare`. -/
def node (shorthands : List (List Char × List Char)) : Nat → Bool → Bool → Build Node
  | 0, _, _ => failure
  | fuel + 1, block, bare => do
    match ← next? with
    | some (.alias name) =>
      skip
      named name
    | _ =>
      let (name, tag) ← properties shorthands
      setName name none
      let body ← content shorthands fuel block bare tag (name.isSome || tag.isSome)
      setName name (some body)
      return body

/-- A node behind its name and its tag; it may be empty where `mayMiss`. -/
def content (shorthands : List (List Char × List Char)) :
    Nat → Bool → Bool → Option String → Bool → Build Node
  | 0, _, _, _, _ => failure
  | fuel + 1, block, bare, tag, mayMiss => do
    match ← next?, block, bare with
    | some .blockEntry, _, true => return .sequence tag (← bareItems shorthands fuel)
    | some (.scalar plain text), _, _ =>
      skip
      return .scalar (if tag = some "!" then none else tag) plain (String.ofList text)
    | some .flowSequenceStart, _, _ =>
      skip
      return .sequence tag (← flowItems shorthands fuel true)
    | some .flowMappingStart, _, _ =>
      skip
      return .mapping tag (← flowEntries shorthands fuel true)
    | some .blockSequenceStart, true, _ =>
      skip
      return .sequence tag (← blockItems shorthands fuel)
    | some .blockMappingStart, true, _ =>
      skip
      return .mapping tag (← blockEntries shorthands fuel)
    | _, _, _ => if mayMiss then return .empty tag else failure

/-- A node, or nothing before one of some tokens. -/
def nodeOr (shorthands : List (List Char × List Char)) :
    Nat → Bool → Bool → List Token → Build Node
  | 0, _, _, _ => failure
  | fuel + 1, block, bare, ends => do
    if ← isNext ends then return .empty none
    node shorthands fuel block bare

/-- The items of a block sequence and its end. -/
def blockItems (shorthands : List (List Char × List Char)) : Nat → Build (List Node)
  | 0 => failure
  | fuel + 1 => do
    if ← accept .blockEnd then return []
    expect .blockEntry
    let item ← nodeOr shorthands fuel true false [.blockEntry, .blockEnd]
    return item :: (← blockItems shorthands fuel)

/-- The items of a sequence without indentation of its own. -/
def bareItems (shorthands : List (List Char × List Char)) : Nat → Build (List Node)
  | 0 => failure
  | fuel + 1 => do
    if ← accept .blockEntry then
      let item ← nodeOr shorthands fuel true false [.blockEntry, .key, .value, .blockEnd]
      return item :: (← bareItems shorthands fuel)
    return []

/-- The entries of a block mapping and its end. -/
def blockEntries (shorthands : List (List Char × List Char)) : Nat → Build (List (Node × Node))
  | 0 => failure
  | fuel + 1 => do
    if ← accept .blockEnd then return []
    expect .key
    let key ← nodeOr shorthands fuel true true [.key, .value, .blockEnd]
    let value ← (do
      if ← accept .value then nodeOr shorthands fuel true true [.key, .value, .blockEnd]
      else return .empty none)
    return (key, value) :: (← blockEntries shorthands fuel)

/-- The items of a flow sequence and its end, before the first of them or behind one. -/
def flowItems (shorthands : List (List Char × List Char)) : Nat → Bool → Build (List Node)
  | 0, _ => failure
  | fuel + 1, first => do
    if ← accept .flowSequenceEnd then return []
    if !first then expect .flowEntry
    if ← accept .flowSequenceEnd then return []
    let item ← (do
      if ← accept .key then return .mapping none [← flowPair shorthands fuel]
      node shorthands fuel false false)
    return item :: (← flowItems shorthands fuel false)

/-- A single pair in a flow sequence.  A token that ends the missing key goes with it. -/
def flowPair (shorthands : List (List Char × List Char)) : Nat → Build (Node × Node)
  | 0 => failure
  | fuel + 1 => do
    let key ← (do
      if ← isNext [.value, .flowEntry, .flowSequenceEnd] then
        skip
        return Node.empty none
      node shorthands fuel false false)
    let value ← (do
      if ← accept .value then
        nodeOr shorthands fuel false false [.flowEntry, .flowSequenceEnd]
      else return .empty none)
    return (key, value)

/-- The entries of a flow mapping and its end, before the first of them or behind one. -/
def flowEntries (shorthands : List (List Char × List Char)) :
    Nat → Bool → Build (List (Node × Node))
  | 0, _ => failure
  | fuel + 1, first => do
    if ← accept .flowMappingEnd then return []
    if !first then expect .flowEntry
    if ← accept .flowMappingEnd then return []
    let entry ← (do
      if ← accept .key then
        let key ← nodeOr shorthands fuel false false [.value, .flowEntry, .flowMappingEnd]
        if ← accept .value then
          return (key, ← nodeOr shorthands fuel false false [.flowEntry, .flowMappingEnd])
        else return (key, .empty none)
      else return (← node shorthands fuel false false, .empty none))
    return entry :: (← flowEntries shorthands fuel false)

end

end Build

/-! ## Documents -/

/-- The handles of tags that need no directive. -/
def usualShorthands : List (List Char × List Char) :=
  [("!".toList, "!".toList), ("!!".toList, "tag:yaml.org,2002:".toList)]

/-- The directives in front of a document and what follows them.  There is at most one version,
1.1 or 1.2, and at most one meaning of a handle. -/
def directives : Bool → List (List Char × List Char) → List Token →
    Option (List (List Char × List Char) × List Token)
  | versioned, shorthands, .version major minor :: rest =>
    if versioned || major != 1 || (minor != 1 && minor != 2) then none
    else directives true shorthands rest
  | versioned, shorthands, .tagShorthand handle start :: rest =>
    if (shorthands.lookup handle).isSome then none
    else directives versioned ((handle, start) :: shorthands) rest
  | _, shorthands, rest => some (shorthands, rest)

/-- More fuel than nodes need: no chain of calls without a token is as long as eight. -/
def fuelFor (tokens : List Token) : Nat :=
  8 * (tokens.length + 1)

/-- The root of a document and the tokens after it. -/
def root (shorthands : List (List Char × List Char)) (tokens : List Token) :
    Option (Node × List Token) :=
  ((Build.node shorthands (fuelFor tokens) true false).run ⟨tokens, []⟩).map fun r =>
    (r.1, r.2.rest)

/-- Whether a token begins or ends a document. -/
def isDocumentToken : Token → Bool
  | .documentStart | .documentEnd | .version .. | .tagShorthand .. => true
  | _ => false

/-- The root behind the directives of a document, and the tokens after it. -/
def explicitRoot (tokens : List Token) : Option (Node × List Token) := do
  let (given, rest) ← directives false [] tokens
  match rest with
  | .documentStart :: rest =>
    match rest with
    | [] => return (.empty none, [])
    | t :: _ =>
      if isDocumentToken t then return (.empty none, rest) else root (given ++ usualShorthands) rest
  | _ => none

/-- The root of the only document of a text; the inner option is empty for a text without any. -/
def document? (text : List Char) : Option (Option Node) := do
  match ← tokens? text with
  | [] => return none
  | t :: rest =>
    let explicit := isDocumentToken t && t != .documentEnd
    let (node, rest) ← if explicit then explicitRoot (t :: rest) else root usualShorthands (t :: rest)
    if (rest.dropWhile (· == .documentEnd)).isEmpty then return some node else none

end Node

end Yaml

end Onboarding
