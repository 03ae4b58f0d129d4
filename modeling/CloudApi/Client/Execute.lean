import CloudApi.Client.Basic
import CloudApi.Api.Error
import CloudApi.Json.TextSource

/-!
# Running requests

`Client.execute` takes a request through these steps:

1. The path is resolved against the base address and the query pairs are appended.
2. A cacheable read, while the cache is on, is looked up under its cache key. A live entry
   answers with status 200, no headers and the stored body, and counts as a cache hit.
3. The headers are built: `accept: application/json`, `content-type: application/json` when
   there is a body, the bearer token, marked sensitive, when there is one, and the filter as
   `x-filter`. A token or
   filter that is not a header value is an error, and nothing is counted.
4. Each attempt runs the hooks before it, goes on the network, then runs the hooks after the
   response. A refusing hook or a transport failure ends the call at once.
5. A response that classifies as no error is the answer. A cacheable read stores its body
   first. Otherwise the retry policy decides: the client sleeps the wait and tries again, or the
   API error is the answer.

Every call that gets past the headers counts once as a success or a failure, and every retry is
counted. An attempt that outlasts the timeout fails as a transport timeout when the timeout has
run. A call waits on the network at its first send, unless its timeout is zero: then the
attempt fails before any connection is tried.

`get`, `post`, `put` and the list readers decode the answer's body as JSON.
-/

namespace CloudApi

namespace Client

/-- The address of a request path. -/
def url (c : Client) (path : String) : Except ClientError Web.Url := requestUrl c.base path

/-- The headers sent with a request before any hook runs. -/
def requestHeaders (c : Client) (r : ApiRequest) : Except ClientError Http.Headers := do
  let hs : Http.Headers := [{ name := "accept", value := "application/json".toUTF8 }]
  let hs := if r.body.isSome then hs.insert "content-type" "application/json".toUTF8 else hs
  let hs ← match c.token with
    | some t =>
      let v := ("Bearer " ++ t).toUTF8
      if Http.validValue v then pure (hs.insert "authorization" v true)
      else throw (.config "Invalid API token: failed to parse header value")
    | none => pure hs
  match r.filter with
  | some f =>
    if Http.validValue f.toUTF8 then pure (hs.insert "x-filter" f.toUTF8)
    else throw (.validation "Invalid filter: failed to parse header value")
  | none => pure hs

/-- A request as it goes on the wire: with the client's user agent unless it has one. -/
def wire (c : Client) (r : HookRequest) : HookRequest :=
  if r.headers.contains "user-agent" then r
  else { r with headers := r.headers.append "user-agent" c.userAgent.toUTF8 }

end Client

namespace Pipeline

/-- Count a failed call and answer its error. -/
def fail {α : Type} (e : ClientError) : ClientM (Except ClientError α) := do
  modify fun c => { c with metrics := c.metrics.recordFailure }
  pure (.error e)

/-- The body cached under a key, counting a hit. -/
def lookup : Option String → ClientM (Option ByteArray)
  | none => pure none
  | some k => do
    let c ← get
    let (hit, cache) := c.cache.get? k c.clock
    set { c with cache, metrics := if hit.isSome then c.metrics.recordCacheHit else c.metrics }
    pure hit

/-- Run the hooks before an attempt, keeping what they saw. -/
def hooksBefore (r : HookRequest) : ClientM (Except String HookRequest) := do
  let c ← get
  let (result, seen) := runBefore c.before r
  set { c with journal := c.journal ++ seen }
  pure result

/-- Run the hooks on a response, keeping what they saw. -/
def hooksAfter (r : HookRequest) (resp : Http.Response) : ClientM (Except String Unit) := do
  let c ← get
  let (result, seen) := runAfter c.after r resp
  set { c with journal := c.journal ++ seen }
  pure result

/-- Send an attempt, the clock moving by the time it takes or by the timeout, whichever is
shorter. The user agent goes with it unless it has one. -/
def deliver (r : HookRequest) : ClientM (Except TransportFault Http.Response) := do
  let c ← get
  let wire := c.wire r
  let ex := c.network.send wire c.clock
  let network := c.network.carry ⟨wire, c.clock, ex⟩
  if ex.delay ≥ c.timeout then
    set { c with network, clock := c.clock + c.timeout }
    pure (.error { timeout := true })
  else
    set { c with network, clock := c.clock + ex.delay }
    pure ex.answer

/-- Whole milliseconds a span lasts, a part of one counting as one. -/
def sleepMillis (w : Span) : Nat := (w.nanos + 999999) / 1000000

/-- The attempts of a call from `attempt` on, with `waited` slept so far, the request of this
attempt having passed its hooks. `fuel` bounds the attempts; the retry budget ends them first. -/
def attempts (url : Web.Url) (key : Option String) (req : ApiRequest) (headers : Http.Headers) :
    Nat → Nat → Span → HookRequest → ClientM (Except ClientError Http.Response)
  | 0, _, _, _ => fail (.transport {})
  | fuel + 1, attempt, waited, outgoing => do
    match ← deliver outgoing with
    | .error t => fail (.transport t)
    | .ok resp =>
      match ← hooksAfter outgoing resp with
      | .error m => fail (.hook m)
      | .ok () =>
        match classify resp with
        | none =>
          modify fun c => { c with
            cache := match key with
              | some k => c.cache.insert k url.pathText resp.body c.clock
              | none => c.cache,
            metrics := c.metrics.recordSuccess }
          pure (.ok resp)
        | some apiError =>
          let input : Retry.Input := { status := resp.status, headers := resp.headers, error := some apiError }
          let c ← get
          match c.retry.nextRetry attempt waited input (c.jitter attempt) with
          | .stop => fail (.api apiError)
          | .retry _ wait =>
            modify fun c => { c with metrics := c.metrics.recordRetry, clock := c.clock + sleepMillis wait }
            let next : HookRequest := { method := req.method, url, headers, body := req.body,
                                        attempt := attempt + 1 }
            match ← hooksBefore next with
            | .error m => fail (.hook m)
            | .ok next => attempts url key req headers fuel (attempt + 1) (waited + wait) next

end Pipeline

namespace Client

open Pipeline in
/-- Run a request with the cache, the hooks and the retry policy. -/
def execute (req : ApiRequest) : Call (Except ClientError Http.Response) := do
  let c ← Call.lift get
  match c.url req.path with
  | .error e => pure (.error e)
  | .ok url =>
    let url := if req.query.isEmpty then url else url.appendPairs req.query
    let key := if req.method == "GET" && req.cacheable && c.cache.enabled then
        some (Http.cacheKey req.method url req.filter) else none
    match ← Call.lift (lookup key) with
    | some body => pure (.ok { status := 200, body })
    | none =>
      match c.requestHeaders req with
      | .error e => pure (.error e)
      | .ok headers =>
        let first : HookRequest := { method := req.method, url, headers, body := req.body, attempt := 0 }
        match ← Call.lift (hooksBefore first) with
        | .error m => Call.lift (fail (.hook m))
        | .ok outgoing =>
          let rest := attempts url key req headers (c.retry.maxRetries + 2) 0 ⟨0⟩ outgoing
          if c.timeout == 0 then Call.lift rest else Call.wait rest

/-- Run a request and decode its body. -/
def requestJson {α : Type} (req : ApiRequest) (read : Json.Reader α) : Call (Except ClientError α) := do
  match ← execute req with
  | .error e => pure (.error e)
  | .ok resp => pure ((Json.decodeText read resp.body).mapError .decode)

/-- Read a path. -/
def get {α : Type} (path : String) (read : Json.Reader α) : Call (Except ClientError α) :=
  requestJson (ApiRequest.get path) read

/-- Read a path through the response cache. -/
def getCached {α : Type} (path : String) (read : Json.Reader α) : Call (Except ClientError α) :=
  requestJson (ApiRequest.get path).cached read

/-- Send a JSON body with a creation or action. -/
def post {α : Type} (path : String) (body : Json) (read : Json.Reader α) : Call (Except ClientError α) :=
  requestJson ((ApiRequest.post path).withJson body) read

/-- Send a JSON body with an update. -/
def put {α : Type} (path : String) (body : Json) (read : Json.Reader α) : Call (Except ClientError α) :=
  requestJson ((ApiRequest.put path).withJson body) read

/-- Remove what a path names; the answer's body is not read. -/
def delete (path : String) : Call (Except ClientError Unit) := do
  return (← execute (ApiRequest.delete path)).map fun _ => ()

/-- Read one page of a list. -/
def getPage {α : Type} (path : String) (page : PageRequest) (cacheable : Bool) (read : Json.Reader α) :
    Call (Except ClientError (PageResult α)) :=
  let r := ApiRequest.page path page
  requestJson (if cacheable then r.cached else r) (PageResult.decode read)

/-- Every item of a list, or those of the one page the options name. -/
def list {α : Type} (path : String) (opts : ListOptions) (read : Json.Reader α) :
    Call (Except ClientError (List α)) :=
  fetchAll opts fun p => getPage path p false read

/-- Every item of a list, each page through the response cache. -/
def listCached {α : Type} (path : String) (opts : ListOptions) (read : Json.Reader α) :
    Call (Except ClientError (List α)) :=
  fetchAll opts fun p => getPage path p true read

end Client

end CloudApi
