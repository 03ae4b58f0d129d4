import CloudApi.Api.Error
import CloudApi.Json.Error
import CloudApi.Resource.Event
import CloudApi.Time.Span

/-!
# Client errors

Everything a call of the client can fail with: bad configuration, an error the API reported, a
failed transfer, a body that does not decode, a failing request hook, a request the client
refuses to send, a wait that timed out or was cancelled, and an event that failed.
`ClientError.display` is how each reads; `ClientError.statusCode` is the HTTP status behind an
error, when there is one.
-/

namespace CloudApi

/-- How a transfer failed: whether a deadline passed, whether no connection was made, and the
status of a response, if one came. -/
structure TransportFault where
  timeout : Bool := false
  connect : Bool := false
  status : Option Nat := none
  deriving Repr, BEq, Inhabited

/-- Why a call of the client failed. -/
inductive ClientError where
  | config (message : String)
  | api (e : ApiError)
  | transport (t : TransportFault)
  | decode (e : Json.Error)
  | hook (message : String)
  | validation (message : String)
  | pollTimeout (what : String) (timeout : Span)
  | cancelled (what : String)
  | eventFailed (message : String) (event : Event)
  deriving Inhabited

namespace ClientError

/-- How an error reads. -/
def display : ClientError → String
  | .config m => "Configuration error: " ++ m
  | .api e => e.display
  | .transport _ => "Transport error"
  | .decode e => "Failed to decode response: " ++ e.message
  | .hook m => "Request hook failed: " ++ m
  | .validation m => "Validation error: " ++ m
  | .pollTimeout what t => "Timed out after " ++ t.text ++ " waiting for " ++ what
  | .cancelled what => "Cancelled while waiting for " ++ what
  | .eventFailed m _ => m

/-- The API error, if this is one. -/
def apiError? : ClientError → Option ApiError
  | .api e => some e
  | _ => none

/-- The HTTP status behind an error, if there is one. -/
def statusCode : ClientError → Option Nat
  | .api e => some e.code
  | .transport t => t.status
  | _ => none

/-- Whether this is an API error with one of the given statuses. -/
def hasStatus (e : ClientError) (codes : List Nat) : Bool :=
  match e.apiError? with
  | some a => codes.contains a.code
  | none => false

/-- Whether this is an API error with status 404. -/
def isNotFound (e : ClientError) : Bool := e.hasStatus [404]

end ClientError

end CloudApi
