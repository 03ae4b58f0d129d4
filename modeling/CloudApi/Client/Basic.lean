import CloudApi.Client.Config
import CloudApi.Client.Hook
import CloudApi.Client.Network
import CloudApi.Http.Cache
import CloudApi.Log.Metrics
import CloudApi.Trust.Certificate

/-!
# Clients

A client holds what every request needs. That is the versioned base address, the token, the
user agent and the timeout of one attempt. It also holds the retry policy, the response cache,
the hooks, the request counters, the poll interval of the waiting helpers, the trusted roots
and the network it sends over. Its clock is virtual, in milliseconds; at its instant 0 the
system's clock reads `origin` milliseconds. The backoff draws its jitter after attempt `k` of a
request from `jitter k`, a sample from `[0, 1)`. Its journal lists, oldest first, what recording
hooks have seen. A client whose program has stopped keeps the message it stopped with (`halted`), and
nothing after that answers.

`Client.new` builds a client from settings, checking them in order:

1. The base address must parse.
2. A named certificate bundle must be readable and hold certificates that are valid roots.
3. The user agent must be a header value.

A token that is empty counts as none.

A call runs on the client's state (`ClientM`). A `Call` may stop once to wait on the network.
What it does up to that point happens when it starts, and the rest when it goes on. A wait that
races a call and loses keeps only the first part.
-/

namespace CloudApi

/-- A client and everything it keeps between calls. -/
structure Client where
  base : Web.Url
  token : Option String
  userAgent : String
  timeout : Nat
  retry : Retry.Policy
  cache : Http.Cache
  before : List BeforeHook := []
  after : List AfterHook := []
  journal : List Sighting := []
  logging : Log.Config
  metrics : Log.Metrics := {}
  pollInterval : Nat
  roots : List ByteArray := []
  network : Network
  clock : Nat := 0
  origin : Nat := 0
  halted : Option String := none
  jitter : Nat → Float := fun _ => 0

namespace Client

/-- Build a client from settings that sends its requests over `network`. `read` gives a file's
bytes, or the system's reason it could not be read. -/
def new (c : ClientConfig) (network : Network) (read : String → Except String ByteArray) :
    Except ClientError Client := do
  let base ← c.endpoint
  let roots ← match c.caPath with
    | none => pure []
    | some path =>
      match read path with
      | .error why => throw (.config ("Failed to read CA cert " ++ path ++ ": " ++ why))
      | .ok pem => Trust.roots pem
  unless Http.validValue c.userAgent.toUTF8 do
    throw (.config "Failed to build HTTP client: builder error")
  pure { base, token := c.token.filter (!·.isEmpty), userAgent := c.userAgent, timeout := c.timeout,
         retry := c.retry, cache := Http.Cache.empty c.cacheExpiration,
         logging := { c.logging with debugExchange := c.debug || c.logging.debugExchange },
         pollInterval := c.pollInterval, roots, network }

/-- Set the budget of time spent waiting between retries. -/
def setRetryMaxWait (c : Client) (ms : Nat) : Client :=
  { c with retry := { c.retry with maxWait := Span.ofMillis ms } }

/-- Add a retry condition after those there. -/
def addRetryCondition (c : Client) (cond : Retry.Condition) : Client :=
  { c with retry := { c.retry with conditions := c.retry.conditions ++ [cond] } }

/-- Replace the retry policy. -/
def setRetry (c : Client) (p : Retry.Policy) : Client := { c with retry := p }

/-- Set the poll interval of the waiting helpers. -/
def setPollInterval (c : Client) (ms : Nat) : Client := { c with pollInterval := ms }

/-- Turn full logging of each exchange on or off. -/
def setDebug (c : Client) (on : Bool) : Client :=
  { c with logging := { c.logging with debugExchange := on } }

/-- Turn the response cache on or off; stored entries stay. -/
def useCache (c : Client) (on : Bool) : Client := { c with cache := { c.cache with enabled := on } }

/-- Drop every cached response. -/
def clearCache (c : Client) : Client := { c with cache := c.cache.clear }

/-- Set the lifetime of cached responses. -/
def setCacheExpiration (c : Client) (ms : Nat) : Client :=
  { c with cache := { c.cache with lifetime := ms } }

/-- Drop the cached responses of an endpoint, answering how many went. -/
def invalidate (c : Client) (endpoint : String) : Nat × Client :=
  let (n, cache) := c.cache.invalidate endpoint
  (n, { c with cache })

/-- Add a hook run before every attempt. -/
def addBefore (c : Client) (h : BeforeHook) : Client := { c with before := c.before ++ [h] }

/-- Add a hook run on every response. -/
def addAfter (c : Client) (h : AfterHook) : Client := { c with after := c.after ++ [h] }

/-- What recording hooks have seen, and the client with its journal emptied. -/
def takeJournal (c : Client) : List Sighting × Client := (c.journal, { c with journal := [] })

/-- Move the clock on. -/
def advance (c : Client) (ms : Nat) : Client := { c with clock := c.clock + ms }

end Client

/-- A computation on a client. -/
abbrev ClientM := StateM Client

/-- Where a call stands once started: done with a value, or waiting on the network with the
rest still to run. -/
inductive Flight (α : Type) where
  | landed (value : α)
  | waiting (rest : ClientM α)

/-- Run what is left of a call. -/
def Flight.finish {α : Type} : Flight α → ClientM α
  | .landed a => pure a
  | .waiting rest => rest

/-- A call that may stop once to wait on the network. -/
structure Call (α : Type) where
  start : ClientM (Flight α)

namespace Call

/-- A computation that does not wait. -/
def lift {α : Type} (x : ClientM α) : Call α := ⟨Flight.landed <$> x⟩

/-- Wait on the network here, then run `rest`. -/
def wait {α : Type} (rest : ClientM α) : Call α := ⟨pure (.waiting rest)⟩

/-- Run a call to its end. -/
def run {α : Type} (c : Call α) : ClientM α := do (← c.start).finish

instance : Monad Call where
  pure a := ⟨pure (.landed a)⟩
  bind x f := ⟨do
    match ← x.start with
    | .landed a => (f a).start
    | .waiting rest => pure (.waiting (do (f (← rest)).run))⟩

end Call

end CloudApi
