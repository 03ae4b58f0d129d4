import CloudApi.Client.Request
import CloudApi.Client.Error
import CloudApi.Http.Response

/-!
# The network

A network answers a request sent at an instant after some milliseconds, with a response or with
a transport failure. It keeps every request sent over it, oldest first, with the instant it left
and what it came to, as a server keeps the requests it received. The client sends its user agent
with every request that has none of its own.

`Network.refusing` refuses every connection at once, as a host does where nothing listens.
-/

namespace CloudApi

/-- What sending one request came to, and how long it took. -/
structure Exchange where
  answer : Except TransportFault Http.Response
  delay : Nat := 0

/-- One request sent over the network: the request as it went, when it left, and what it came
to. -/
structure Delivery where
  request : HookRequest
  sentAt : Nat
  exchange : Exchange

/-- Where requests go: an answer for each request sent at an instant, and the requests sent so
far. -/
structure Network where
  send : HookRequest → Nat → Exchange
  sent : List Delivery := []

/-- The network once it has carried one more request. -/
def Network.carry (n : Network) (d : Delivery) : Network := { n with sent := n.sent ++ [d] }

/-- A network on which every connection is refused at once. -/
def Network.refusing : Network := { send := fun _ _ => { answer := .error { connect := true } } }

end CloudApi
