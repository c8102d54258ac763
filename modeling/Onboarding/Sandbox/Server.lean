import Onboarding.Http.Client

/-!
# Servers in memory

A server with prepared answers at one authority, which keeps what it receives.  It reads one
request after the other, and gives no answer to some of them, and none when no answer is left.
-/

namespace Onboarding

namespace Sandbox

/-- A server: where it is, the answers that are left, and the requests that came. -/
structure Server where
  authority : String
  answers : List (Option Http.RawResponse)
  received : List Http.Exchange

namespace Server

/-- Headers as a server lists them: in lower case, without those of the connection, in order. -/
def listed (headers : List (String × String)) : List (String × String) :=
  let own := ["host", "user-agent", "accept", "accept-encoding", "content-length", "connection"]
  ((headers.map fun h => (Http.Client.lowerText h.1, h.2)).filter (!own.contains ·.1)).mergeSort
    fun a b => a.1 < b.1 || (a.1 == b.1 && a.2 ≤ b.2)

/-- What a request comes to that gets no answer. -/
def silence : String :=
  "no answer"

/-- The wire to a server; requests to any other place get no answer. -/
def wire : Http.Wire Server := fun e s =>
  if e.address.secure || e.address.authority != s.authority.toList then (.error silence, s)
  else
    let answer :=
      match s.answers.headD none with
      | some raw => .ok raw
      | none => .error silence
    (answer, { s with answers := s.answers.tail, received := s.received ++ [e] })

/-- The transport to a server. -/
def transport : Http.Transport Server :=
  Http.Client.transport wire

end Server

end Sandbox

end Onboarding
