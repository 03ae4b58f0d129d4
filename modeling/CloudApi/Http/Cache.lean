import CloudApi.Text.Blank
import CloudApi.Web.Url

/-!
# The response cache

Bodies of successful reads, stored under a key with the path they were read from and the
instant they were stored. An entry lives for the cache's lifetime: it has expired once its age
is at least that long, so a lifetime of zero expires everything at once. The lifetime is read
whenever an entry is looked at, so changing it changes stored entries too.

Expired entries are dropped when they are looked up and swept out before every store. A cache
that is switched off finds nothing and stores nothing, but keeps what it holds. Instants are
milliseconds on the session's clock.

The key of a read is its method, the origin and path of its address, the decoded query pairs in
sorted order, and the filter it carries: so the order of query parameters does not split
entries.
-/

namespace CloudApi.Http

/-- The cache key of a read: `METHOD origin+path`, then `?k=v&k=v` over the sorted decoded
query pairs, then ` filter=` and the filter, if there is one. -/
def cacheKey (method : String) (url : Web.Url) (filter : Option String) : String :=
  let pairs := url.queryPairs.mergeSort fun a b => a.1 < b.1 || (a.1 == b.1 && a.2 ≤ b.2)
  let query := match pairs with
    | [] => ""
    | _ => "?" ++ "&".intercalate (pairs.map fun (k, v) => k ++ "=" ++ v)
  method ++ " " ++ url.origin ++ url.pathText ++ query ++
    (match filter with | some f => " filter=" ++ f | none => "")

/-- A stored body, the path it was read from, and when it was stored. -/
structure CacheEntry where
  path : String
  body : ByteArray
  storedAt : Nat

/-- Whether an entry stored at `storedAt` has expired at `now` under a lifetime of `ttl`. -/
def CacheEntry.expired (e : CacheEntry) (ttl now : Nat) : Bool := e.storedAt + ttl ≤ now

/-- Stored bodies by key, with a lifetime and a switch. -/
structure Cache where
  enabled : Bool := true
  lifetime : Nat := 900000
  entries : List (String × CacheEntry) := []

namespace Cache

/-- An empty cache with the given lifetime. -/
def empty (lifetime : Nat) : Cache := { lifetime }

/-- How many entries are stored, expired ones not yet swept included. -/
def size (c : Cache) : Nat := c.entries.length

/-- Drop every entry. -/
def clear (c : Cache) : Cache := { c with entries := [] }

/-- Look a key up at `now`: the body of a live entry, or nothing. An expired entry is dropped. -/
def get? (c : Cache) (key : String) (now : Nat) : Option ByteArray × Cache :=
  if !c.enabled then (none, c) else
  match c.entries.lookup key with
  | none => (none, c)
  | some e =>
    if e.expired c.lifetime now then (none, { c with entries := c.entries.filter (·.1 != key) })
    else (some e.body, c)

/-- Store a body under a key at `now`, first sweeping out expired entries. An entry under the
same key is replaced where it stands. -/
def insert (c : Cache) (key path : String) (body : ByteArray) (now : Nat) : Cache :=
  if !c.enabled then c else
  let live := c.entries.filter fun (_, e) => !e.expired c.lifetime now
  let entry : CacheEntry := { path, body, storedAt := now }
  if live.any (·.1 == key) then
    { c with entries := live.map fun (k, e) => if k == key then (k, entry) else (k, e) }
  else { c with entries := live ++ [(key, entry)] }

/-- Whether an entry's path names the endpoint: the path with trailing slashes removed ends with
a slash and the endpoint with its slashes trimmed. -/
def pathNames (path endpoint : String) : Bool :=
  (Text.trimEndChar path '/').endsWith ("/" ++ Text.trimChar endpoint '/')

/-- Drop the entries stored for an endpoint, answering how many went. -/
def invalidate (c : Cache) (endpoint : String) : Nat × Cache :=
  let kept := c.entries.filter fun (_, e) => !pathNames e.path endpoint
  (c.entries.length - kept.length, { c with entries := kept })

end Cache

end CloudApi.Http
