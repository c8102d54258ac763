import Onboarding.Http.Address
import Onboarding.Http.Message
import Onboarding.Text.Blank

/-!
# The web client

A transport over a wire that carries single exchanges.  The client follows redirections, tidies
the headers of answers, takes no body that is too long, and reports a request that gets no answer.
-/

namespace Onboarding

namespace Http

/-! ## Exchanges -/

/-- A request as it goes over the wire. -/
structure Exchange where
  method : String
  address : Address
  headers : List (String × String)
  body : Option Bytes
  deriving DecidableEq

/-- An answer as it comes over the wire; a header may repeat and hold any octets. -/
structure RawResponse where
  status : Nat
  headers : List (String × Bytes)
  body : Bytes
  deriving DecidableEq

/-- A way to have exchanges answered; without an answer it says why. -/
abbrev Wire (σ : Type) : Type :=
  Exchange → σ → Except String RawResponse × σ

namespace Client

/-! ## Headers -/

/-- A character of a header's name. -/
def isNameChar (c : Char) : Bool :=
  c.isAlphanum || "!#$%&'*+-.^_\x60|~".toList.contains c

/-- Whether a header can be sent. -/
def isSendable (header : String × String) : Bool :=
  !header.1.isEmpty && header.1.toList.all isNameChar
    && header.2.toList.all fun c => c == '\t' || (0x20 ≤ c.toNat && c.toNat != 0x7F)

/-- A value of visible ASCII characters and blanks, without the blanks around it. -/
def headerText? (octets : Bytes) : Option String :=
  let trimmed := Text.trimBy (fun b => b == 0x20 || b == 0x9) octets
  if trimmed.all fun b => b == 0x9 || (0x20 ≤ b && b ≤ 0x7E) then Utf8.toString? trimmed else none

/-- A text in lower case. -/
def lowerText (s : String) : String :=
  String.ofList (s.toList.map Response.lower)

/-- Headers by their names in lower case; the last readable value of a name counts. -/
def tidy (headers : List (String × Bytes)) : List (String × String) :=
  sortHeaders (headers.filterMap fun h => (headerText? h.2).map (lowerText h.1, ·))

/-- The headers that are not sent to another address. -/
def isPrivate (header : String × String) : Bool :=
  ["authorization", "cookie", "content-length"].contains (lowerText header.1)

/-! ## Redirections -/

/-- Whether a status sends the client elsewhere. -/
def isRedirect (status : Nat) : Bool :=
  300 ≤ status && status < 400 && status != 304

/-- Whether a redirection keeps the method. -/
def keepsMethod (status : Nat) : Bool :=
  status == 307 || status == 308

/-- Whether requests of a method have a body. -/
def hasBody (method : String) : Bool :=
  ["POST", "PUT", "PATCH"].contains method

/-- The request that a redirection asks for; nothing when it would need the body again, or leads
nowhere. -/
def redirected? (e : Exchange) (status : Nat) (location : Option String) : Option Exchange := do
  let address ← e.address.follow? (← location).toList
  let headers := e.headers.filter (!isPrivate ·)
  if keepsMethod status then
    if hasBody e.method || e.body.isSome then none else some { e with address, headers }
  else
    let method := if e.method = "HEAD" then "HEAD" else "GET"
    some ⟨method, address, headers, none⟩

/-- How many redirections are followed. -/
def redirectLimit : Nat :=
  10

/-! ## Requests -/

/-- The most octets of a body that are read. -/
def bodyLimit : Nat :=
  10 * 1024 * 1024

/-- The answer to an exchange, after at most `left` redirections. -/
def exchange {σ : Type} (wire : Wire σ) : Nat → Exchange → σ → Except Fault Response × σ
  | left, e, s =>
    match wire e s with
    | (.error text, s) => (.error (.network text), s)
    | (.ok raw, s) =>
      let headers := tidy raw.headers
      let location := headers.lookup "location"
      if isRedirect raw.status then
        match left, redirected? e raw.status location with
        | 0, _ => (.error .tooManyRedirections, s)
        | _ + 1, none => (.error (.misdirected raw.status location), s)
        | left + 1, some next => exchange wire left next s
      else if bodyLimit < raw.body.length then (.error .oversized, s)
      else (.ok ⟨raw.status, headers, raw.body⟩, s)

/-- The first exchange of a request; a fault for a header that cannot be sent and for a URL that is
not one of the web. -/
def first? (r : Request) : Except Fault Exchange :=
  match r.headers.find? (!isSendable ·), Address.ofText? r.url.toList with
  | some header, _ => .error (.header r.url header.1)
  | none, none => .error (.url r.url)
  | none, some address => .ok ⟨r.method, address, r.headers, r.body⟩

/-- A transport over a wire. -/
def transport {σ : Type} (wire : Wire σ) : Transport σ := fun request s =>
  let (answer, s) :=
    match first? request with
    | .ok e => exchange wire redirectLimit e s
    | .error fault => (.error fault, s)
  match answer with
  | .ok response => ⟨response, [], s⟩
  | .error fault => ⟨.unreachable, [.unanswered request.method request.url fault], s⟩

end Client

end Http

end Onboarding
