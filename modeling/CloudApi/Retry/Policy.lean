import CloudApi.Retry.Backoff
import CloudApi.Api.Error
import CloudApi.Http.Header
import CloudApi.Text.Blank

/-!
# Retry policy

A retry policy decides, from a failed response, whether to send the request again and after how
long. Its conditions are tried in order and the first that matches decides: it names itself and
waits by the backoff, by the `Retry-After` header when there is one, or by a rule of its own.
`Policy.nextRetry` also keeps to the budget: no retry once the attempts reach `maxRetries` or the
time waited reaches `maxWait`, and never a wait past what is left of `maxWait`.

The standard conditions, in order: `rate_limited` (status 429, or a reason that mentions
"linode busy"); `service_unavailable` (503 with a `Retry-After` and no maintenance);
`transient_server_error` (any 5xx but 501, and but 503 in maintenance); `request_timeout` (408);
and `proxy_bad_request` (400 from nginx with an HTML body).
-/

namespace CloudApi.Retry

/-- What a retry decision looks at: the status, the headers and the API error, if any. -/
structure Input where
  status : Nat
  headers : Http.Headers := []
  error : Option ApiError := none

namespace Input

/-- The seconds of a `Retry-After` header: a decimal number, an optional `+`, white space
around it allowed. -/
def retryAfterSecs (v : String) : Option Nat :=
  let t := Text.trim v
  let digits := if t.startsWith "+" then String.ofList (t.toList.drop 1) else t
  if !digits.isEmpty ∧ digits.all Char.isDigit then
    let n := digits.foldl (fun acc c => acc * 10 + (c.toNat - 48)) 0
    if n < Nat.pow 2 64 then some n else none
  else none

/-- The wait a `Retry-After` header asks for. -/
def retryAfter (i : Input) : Option Span :=
  (i.headers.text? "Retry-After" >>= retryAfterSecs).map Span.ofSecs

/-- Whether the API says it is under maintenance: the header is present. -/
def inMaintenance (i : Input) : Bool := i.headers.contains "X-Maintenance-Mode"

end Input

/-- How a matching condition chooses its wait. -/
inductive Wait where
  | backoff
  | retryAfterOrBackoff
  | custom (f : Input → Nat → Span)
  deriving Inhabited

/-- A named condition under which a request is retried. -/
structure Condition where
  name : String
  test : Input → Bool
  wait : Wait := .backoff

/-- What a retry condition can ask of a response, for conditions given as data. -/
inductive Clause where
  | status (codes : List Nat)
  | headerPresent (name : String)
  | reasonContains (needle : String)
  | maintenance (on : Bool)

/-- Whether a response meets a clause. -/
def Clause.holds (i : Input) : Clause → Bool
  | .status codes => codes.contains i.status
  | .headerPresent name => i.headers.contains name
  | .reasonContains needle => match i.error with
    | some e => e.hasReasonContaining needle
    | none => false
  | .maintenance on => i.inMaintenance == on

namespace Condition

/-- A condition met when all of its clauses hold. -/
def whenAll (name : String) (clauses : List Clause) (wait : Wait := .backoff) : Condition :=
  ⟨name, fun i => clauses.all (Clause.holds i), wait⟩

/-- Reasons that mean the API asks the client to slow down. -/
def busyPhrases : List String := ["linode busy"]

/-- Too many requests, or a reason saying the API is busy. -/
def rateLimited : Condition :=
  ⟨"rate_limited", fun i => i.status == 429 || (match i.error with
    | some e => busyPhrases.any e.hasReasonContaining
    | none => false), .retryAfterOrBackoff⟩

/-- Service unavailable with a `Retry-After`, and not under maintenance. -/
def serviceUnavailable : Condition :=
  ⟨"service_unavailable", fun i => i.status == 503 && !i.inMaintenance && i.retryAfter.isSome,
    .retryAfterOrBackoff⟩

/-- A server error other than not implemented, and than unavailable for maintenance. -/
def transientServerError : Condition :=
  ⟨"transient_server_error", fun i =>
    500 ≤ i.status && i.status ≤ 599 && i.status != 501 && !(i.status == 503 && i.inMaintenance),
    .backoff⟩

/-- The request timed out. -/
def requestTimeout : Condition := ⟨"request_timeout", fun i => i.status == 408, .backoff⟩

/-- A bad request answered by an nginx proxy with an HTML page. -/
def proxyBadRequest : Condition :=
  ⟨"proxy_bad_request", fun i =>
    i.status == 400 && i.headers.text? "Server" == some "nginx" &&
      (match i.headers.text? "Content-Type" with
        | some ct => ct.startsWith "text/html"
        | none => false), .backoff⟩

/-- The standard conditions in the order they are tried. -/
def standard : List Condition :=
  [rateLimited, serviceUnavailable, transientServerError, requestTimeout, proxyBadRequest]

end Condition

/-- Whether to retry, under which condition and after how long. -/
inductive Decision where
  | retry (condition : String) (wait : Span)
  | stop
  deriving Repr, BEq, Inhabited

/-- Whether a decision is to retry. -/
def Decision.isRetry : Decision → Bool
  | .retry _ _ => true
  | .stop => false

/-- The wait of a decision; zero when it stops. -/
def Decision.wait : Decision → Span
  | .retry _ w => w
  | .stop => ⟨0⟩

/-- A retry policy: the budget, the backoff and the conditions. -/
structure Policy where
  maxRetries : Nat := 1000
  maxWait : Span := Span.ofSecs 30
  backoff : Backoff := .standard
  conditions : List Condition := Condition.standard
  deriving Inhabited

namespace Policy

/-- The policy that never retries. -/
def disabled : Policy := ⟨0, ⟨0⟩, .none, []⟩

/-- The names of the conditions in order. -/
def names (p : Policy) : List String := p.conditions.map (·.name)

/-- The first matching condition's decision, without regard to the budget; `sample` is the
backoff's draw for this attempt. -/
def shouldRetry (p : Policy) (attempt : Nat) (i : Input) (sample : Float := 0) : Decision :=
  match p.conditions.find? (·.test i) with
  | none => .stop
  | some c =>
    let wait := match c.wait with
      | .backoff => p.backoff.delay attempt sample
      | .retryAfterOrBackoff => i.retryAfter.getD (p.backoff.delay attempt sample)
      | .custom f => f i attempt
    .retry c.name wait

/-- The decision within the budget, after `attempt` attempts and `waited` time spent waiting. -/
def nextRetry (p : Policy) (attempt : Nat) (waited : Span) (i : Input) (sample : Float := 0) :
    Decision :=
  if attempt ≥ p.maxRetries ∨ waited ≥ p.maxWait then .stop
  else match p.shouldRetry attempt i sample with
    | .retry c w => .retry c (w.min (p.maxWait - waited))
    | .stop => .stop

end Policy

end CloudApi.Retry
