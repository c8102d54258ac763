import Onboarding.Url.PathText

/-!
# Reading URLs

`Url.parse` reads a URL that stands for itself.  Blanks and controls around it are ignored, and
so are tabs and line ends inside it.
-/

namespace Onboarding

namespace Url

/-! ## Preparation -/

/-- Tabs and line ends, which count nowhere in a URL. -/
def isIgnored (c : Char) : Bool :=
  c == '\t' || c == '\n' || c == '\r'

/-- The characters of a URL that count. -/
def prepare (text : List Char) : List Char :=
  ((((text.dropWhile (·.toNat ≤ 0x20)).reverse).dropWhile (·.toNat ≤ 0x20)).reverse).filter
    (!isIgnored ·)

/-- Whether a character may stand in a scheme after its first letter. -/
def isSchemeChar (c : Char) : Bool :=
  isLetter c || ('0' ≤ c && c ≤ '9') || c == '+' || c == '-' || c == '.'

/-- A scheme in lower case and the text after its colon. -/
def readScheme (text : List Char) : Option (List Char × List Char) :=
  match text.span isSchemeChar with
  | (c :: more, ':' :: rest) =>
    if isLetter c then some ((c :: more).map Domain.lower, rest) else none
  | _ => none

/-- Whether a character separates segments. -/
def isSeparator (family : Family) (c : Char) : Bool :=
  c == '/' || (family.isSpecial && c == '\\')

/-- Whether a character ends the path or what stands before it. -/
def isPathEnd (c : Char) : Bool :=
  c == '?' || c == '#'

/-! ## User information -/

/-- Text before and after the last at sign of an authority. -/
def cutUserinfo (family : Family) (text : List Char) : Option (List Char × List Char) :=
  let region := text.takeWhile (fun c => !(isSeparator family c || isPathEnd c))
  let host := (region.reverse.takeWhile (· != '@')).reverse
  if region.contains '@' then
    some (region.take (region.length - host.length - 1), host ++ text.drop region.length)
  else none

/-- The user name and the password of user information.  An empty password is none. -/
def readUserinfo (text : List Char) : List Char × Option (List Char) :=
  let (username, password) := text.span (· != ':')
  let encode := Percent.encode Percent.userinfo
  let password := password.drop 1
  (encode username, if password.isEmpty then none else some (encode password))

/-! ## Host and port -/

/-- How many characters belong to the host: those before a colon outside brackets or before the
path. -/
def hostLength (family : Family) : Bool → List Char → Nat
  | _, [] => 0
  | inside, c :: rest =>
    if (c == ':' && !inside) || isSeparator family c || isPathEnd c then 0
    else hostLength family (if c == '[' then true else if c == ']' then false else inside) rest + 1

/-- The host and the text after it. -/
def readHost (family : Family) (text : List Char) : Except Error (Host × List Char) :=
  let n := hostLength family false text
  let host := text.take n
  let rest := text.drop n
  if family = .web && host.isEmpty then .error .emptyHost
  else (if family.isSpecial then Host.parse host else Host.parsePlain host).map (·, rest)

/-- The port after its colon, and the text after it.  The port that the scheme implies is none. -/
def readPort (scheme : List Char) (text : List Char) : Except Error (Option Nat × List Char) :=
  let (digits, rest) := text.span (fun c => '0' ≤ c && c ≤ '9')
  let port := (Numeral.read? 10 digits).getD 0
  let ended := rest.isEmpty || isPathEnd (rest.headD '?') || "/\\".toList.contains (rest.headD '?')
  if 65535 < port || !ended then .error .invalidPort
  else .ok (if digits.isEmpty || defaultPort? scheme == some port then none else some port, rest)

/-- The host and the port, with the user information read before, and the text after them.  User
information needs a host. -/
def readHostPort (scheme : List Char) (username : List Char) (password : Option (List Char))
    (text : List Char) : Except Error (Authority × List Char) := do
  let (host, rest) ← readHost (family scheme) text
  if host.isEmpty && (family scheme = .web || !username.isEmpty || password.isSome
      || rest.head? == some ':') then
    throw .emptyHost
  match rest with
  | ':' :: rest =>
    let (port, rest) ← readPort scheme rest
    return (⟨username, password, host, port⟩, rest)
  | _ => return (⟨username, password, host, none⟩, rest)

/-- The authority after its slashes, and the text after it. -/
def readAuthority (scheme : List Char) (text : List Char) : Except Error (Authority × List Char) :=
  match cutUserinfo (family scheme) text with
  | none => readHostPort scheme [] none text
  | some (userinfo, rest) =>
    let ended := rest.head?.any (fun c => isSeparator (family scheme) c || isPathEnd c)
    if userinfo.isEmpty && ended then .error .emptyHost
    else
      let (username, password) := readUserinfo userinfo
      readHostPort scheme username password rest

/-! ## Path, query and fragment -/

/-- A path behind the text in front of it, and the text after it. -/
def readPath (family : Family) (start text : List Char) : List Char × List Char :=
  let (region, rest) := text.span (!isPathEnd ·)
  let segments := (Split.pieces (isSeparator family) region).map (Percent.encode Percent.path)
  (settle family (addSegments family start segments), rest)

/-- A path after an authority. -/
def readPathStart (family : Family) (text : List Char) : List Char × List Char :=
  match text with
  | [] => (if family.isSpecial then ['/'] else [], [])
  | c :: rest =>
    if family.isSpecial then readPath family ['/'] (if isSeparator family c then rest else text)
    else if isPathEnd c then ([], text)
    else readPath family (if c = '/' then [] else ['/']) text

/-- The query and the fragment. -/
def readTail (family : Family) (text : List Char) : Option (List Char) × Option (List Char) :=
  let (before, fragment) := text.span (· != '#')
  let escapes := if family.isSpecial then Percent.specialQuery else Percent.query
  (if before.isEmpty then none else some (Percent.encode escapes (before.drop 1)),
    if fragment.isEmpty then none else some (Percent.encode Percent.fragment (fragment.drop 1)))

/-- A URL of its parts and of the text after its path. -/
def build (scheme : List Char) (authority : Option Authority) (path : List Char × List Char) : Url :=
  let (query, fragment) := readTail (family scheme) path.2
  ⟨scheme, authority, path.1, query, fragment⟩

/-! ## Whole URLs -/

/-- The path of a file, which may have a slash of its own in front, and the text after it. -/
def readFilePath (text : List Char) : List Char × List Char :=
  readPath .file (if isSeparator .file (text.headD '?') then [] else ['/']) text

/-- A URL of a file after its scheme. -/
def readFile (scheme text : List Char) : Except Error Url :=
  let bare : Authority := ⟨[], none, .name [], none⟩
  match text with
  | a :: b :: rest =>
    if isSeparator .file a && isSeparator .file b then
      let (host, after) := rest.span (fun c => !(isSeparator .file c || isPathEnd c))
      if isDriveLetter host then .ok (build scheme (some bare) (readPath .file ['/'] rest))
      else if host.isEmpty then .ok (build scheme (some bare) (readFilePath rest))
      else
        match Host.parse host with
        | .error e => .error e
        | .ok parsed =>
          if parsed = .name "localhost".toList then
            .ok (build scheme (some bare) (readFilePath after))
          else
            let path := readPathStart .file after
            let host := if beginsWithDrive path.1 then .name [] else parsed
            .ok (build scheme (some { bare with host }) path)
    else .ok (build scheme (some bare) (readFilePath text))
  | _ => .ok (build scheme (some bare) (readFilePath text))

/-- A URL after its scheme. -/
def readRest (scheme text : List Char) : Except Error Url :=
  match family scheme with
  | .file => readFile scheme text
  | .web =>
    (readAuthority scheme (text.dropWhile (isSeparator .web))).map fun (authority, rest) =>
      build scheme authority (readPathStart .web rest)
  | .other =>
    match text with
    | '/' :: '/' :: rest =>
      (readAuthority scheme rest).map fun (authority, rest) =>
        build scheme authority (readPathStart .other rest)
    | '/' :: rest => .ok (build scheme none (readPath .other ['/'] rest))
    | _ =>
      let (region, rest) := text.span (!isPathEnd ·)
      .ok (build scheme none (Percent.encode Percent.controls region, rest))

/-- The URL that text is. -/
def parse (s : String) : Except Error Url :=
  match readScheme (prepare s.toList) with
  | some (scheme, rest) => readRest scheme rest
  | none => .error .relativeWithoutBase

end Url

end Onboarding
