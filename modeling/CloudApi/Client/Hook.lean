import CloudApi.Client.Request
import CloudApi.Http.Response
import CloudApi.Text.Utf8

/-!
# Hooks

Hooks run on every attempt, in the order they were added, and stop at the first refusal. A hook
is any function: one before a request passes it on, changed or not, or refuses it with a message,
and then nothing is sent; one after a response passes it or refuses it, and the call fails with
the hook's message. Either may record what it saw. The hooks built here set a header, replacing
the fields of its name, refuse, or record, limited to requests whose address path ends with a
suffix, a hook before a request to one attempt and one after a response to one status.

A recording hook changes nothing. It keeps what it saw: the request as the hooks before it left
it, or the response with its request's method and address. As JSON a sighting shows its headers
sorted by name and its bodies as text, each invalid UTF-8 sequence replaced.
-/

namespace CloudApi

/-- Which exchanges a hook applies to. Each limit that is set must hold. -/
structure HookScope where
  pathSuffix : Option String := none
  attempt : Option Nat := none
  status : Option Nat := none
  deriving Inhabited

/-- Whether a hook's limits hold for an address, an attempt and a status. -/
def HookScope.covers (s : HookScope) (url : Web.Url) (attempt : Nat) (status : Option Nat) : Bool :=
  (s.pathSuffix.all fun p => url.pathText.endsWith p) &&
  (s.attempt.all (· == attempt)) &&
  (s.status.all fun st => status == some st)

/-- What a recording hook saw. -/
inductive Sighting where
  | request (r : HookRequest)
  | response (method : String) (url : Web.Url) (response : Http.Response)

/-- A hook run before each attempt: the request it passes on and what it recorded, or its
refusal. -/
structure BeforeHook where
  apply : HookRequest → Except String (HookRequest × List Sighting)

/-- A hook run on each response to a request: what it recorded, or its refusal. -/
structure AfterHook where
  apply : HookRequest → Http.Response → Except String (List Sighting)

namespace BeforeHook

/-- Refuse the requests in scope with a message. -/
def refuse (message : String) (scope : HookScope) : BeforeHook :=
  ⟨fun r => if scope.covers r.url r.attempt none then .error message else .ok (r, [])⟩

/-- Set a header on the requests in scope, replacing the fields of its name. -/
def setHeader (name : String) (value : ByteArray) (scope : HookScope) : BeforeHook :=
  ⟨fun r => if scope.covers r.url r.attempt none then
      .ok ({ r with headers := r.headers.insert name value }, [])
    else .ok (r, [])⟩

/-- Record every request and change nothing. -/
def record : BeforeHook := ⟨fun r => .ok (r, [.request r])⟩

end BeforeHook

namespace AfterHook

/-- Refuse the responses in scope with a message. -/
def refuse (message : String) (scope : HookScope) : AfterHook :=
  ⟨fun r resp => if scope.covers r.url r.attempt (some resp.status) then .error message else .ok []⟩

/-- Record every response with its request's method and address. -/
def record : AfterHook := ⟨fun r resp => .ok [.response r.method r.url resp]⟩

end AfterHook

/-- Bytes as JSON text, each invalid sequence replaced. -/
def Json.ofBytes (b : ByteArray) : Json := .str (Utf8.decodeLossy b)

/-- Header fields as JSON pairs, sorted by name. -/
def Json.ofHeaders (hs : Http.Headers) : Json :=
  .arr (hs.sorted.map fun h => .arr [.str h.name, Json.ofBytes h.value])

/-- What a recording hook saw, as JSON. -/
def Sighting.toJson : Sighting → Json
  | .request r => .mkObj [("hook", .str "before"), ("method", .str r.method), ("url", .str r.url.href),
      ("attempt", .nat r.attempt), ("headers", Json.ofHeaders r.headers),
      ("body", match r.body with | some b => Json.ofBytes b | none => .null)]
  | .response m u r => .mkObj [("hook", .str "after"), ("method", .str m), ("url", .str u.href),
      ("status", .nat r.status), ("body", Json.ofBytes r.body)]

/-- The hooks on a request in order: the request as they leave it, or the first refusal, and
what the recording hooks saw before it. -/
def runBefore : List BeforeHook → HookRequest → Except String HookRequest × List Sighting
  | [], r => (.ok r, [])
  | h :: hs, r =>
    match h.apply r with
    | .error m => (.error m, [])
    | .ok (r, seen) =>
      let (result, more) := runBefore hs r
      (result, seen ++ more)

/-- The hooks on a response in order: nothing, or the first refusal, and what the recording hooks
saw before it. -/
def runAfter : List AfterHook → HookRequest → Http.Response → Except String Unit × List Sighting
  | [], _, _ => (.ok (), [])
  | h :: hs, r, resp =>
    match h.apply r resp with
    | .error m => (.error m, [])
    | .ok seen =>
      let (result, more) := runAfter hs r resp
      (result, seen ++ more)

end CloudApi
