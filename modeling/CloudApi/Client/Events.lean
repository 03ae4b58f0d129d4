import CloudApi.Client.Waiting
import CloudApi.Query.Filter

/-!
# Following the event feed

An `EventPoller` watches the feed for one operation: an action on an entity of a type, perhaps
with a second entity. Its watermark is the newest event id it has dealt with. Each poll asks for
the events after the watermark, newest first, and looks at them oldest first.

The first finished event of the operation is the answer. A failed one is an error that carries
it. Either way the watermark moves to that event. When neither turns up, the watermark moves to
just before the oldest event of the operation still running, or to the newest event seen when
none is running. An event created before the poller's `since` instant is not the operation's.

For linodes, disks, domains and node balancers the feed can be filtered by entity: by type, and
by id when the id is a 64-bit number. Filtering by id also needs the events to be newer than the
watermark. Without any clause the feed is not filtered, and one clause stands alone.

A new poller is primed: its watermark starts at the newest event of the operation already in the
feed, so that only later ones count.
-/

namespace CloudApi

/-- Where an event poller stands: the newest event id dealt with, and the operation watched. -/
structure Watermark where
  lastSeen : Nat := 0
  entityId : String
  entityType : EntityType
  secondary : Option String := none
  action : String
  deriving Inhabited

/-- A watermark as JSON. -/
def Watermark.toJson (w : Watermark) : Json :=
  .mkObj [("last_seen_event_id", .nat w.lastSeen), ("entity_id", .str w.entityId),
    ("entity_type", .str w.entityType.name),
    ("secondary_entity_id", match w.secondary with | some s => .str s | none => .null),
    ("action", .str w.action)]

/-- A text as a 64-bit number: decimal digits after an optional `+`. -/
def parseU64 (s : String) : Option Nat :=
  let ds := match s.toList with
    | '+' :: rest => rest
    | cs => cs
  if ds.isEmpty || !ds.all Char.isDigit then none
  else
    let n := ds.foldl (fun acc c => acc * 10 + (c.toNat - 48)) 0
    if n < Nat.pow 2 64 then some n else none

/-- The filter on the feed of an entity, newer than `after` when given: by entity where the type
allows it, then by id. No clause is no filter, and one clause stands alone. -/
def feedFilter (t : EntityType) (id : String) (after : Option Nat) : Option Filter :=
  let byEntity : List Filter :=
    if t.supportsFeedFilter then
      (match parseU64 id with
        | some n => [.compare "entity.id" .eq (.nat n)]
        | none => []) ++ [.compare "entity.type" .eq (.str t.name)]
    else []
  let byId : List Filter := match after with
    | some a => [.compare "id" .gt (.nat a)]
    | none => []
  match byEntity ++ byId with
  | [] => none
  | [c] => some c
  | cs => some (.all cs)

/-- The list options of the feed of an entity, newer than `after` when given: the first page,
newest first. -/
def feedQuery (t : EntityType) (id : String) (after : Option Nat) : ListOptions :=
  { page := 1, orderBy := some "created", order := some .descending,
    filter := (feedFilter t id after).map (·.render) }

/-- A watch on the event feed for one operation. -/
structure EventPoller where
  watermark : Watermark
  since : Option Stamp := none
  deriving Inhabited

namespace EventPoller

/-- The operation in words: `linode_boot event on linode 11`, with `(pending)` for an id not
yet known, and the second entity if there is one. -/
def describe (p : EventPoller) : String :=
  let w := p.watermark
  let id := if w.entityId.isEmpty then "(pending)" else w.entityId
  let what := w.action ++ " event on " ++ w.entityType.name ++ " " ++ id
  match w.secondary with
  | some s => what ++ " (secondary " ++ s ++ ")"
  | none => what

/-- The poller watching the entity with id `id` from now on. -/
def setEntityId (p : EventPoller) (id : String) : EventPoller :=
  { p with watermark := { p.watermark with entityId := id } }

/-- The poller ignoring events created before `since`. -/
def withSince (p : EventPoller) (since : Stamp) : EventPoller := { p with since := some since }

/-- The feed query of the next poll. -/
def query (p : EventPoller) : ListOptions :=
  feedQuery p.watermark.entityType p.watermark.entityId (some p.watermark.lastSeen)

/-- Whether an event is of the operation: its action, its entity's type and id (any id while
none is known), and its second entity when one is watched. -/
def matchesOperation (p : EventPoller) (e : Event) : Bool :=
  let w := p.watermark
  e.action == w.action &&
  match e.entity with
  | none => false
  | some ent =>
    ent.type == w.entityType && (w.entityId.isEmpty || ent.idText == w.entityId) &&
    match w.secondary with
    | some s => e.secondaryEntity.any (·.idText == s)
    | none => true

/-- Whether an event is the one waited for: of the operation, and not created before `since`. -/
def isTarget (p : EventPoller) (e : Event) : Bool :=
  p.matchesOperation e &&
  match p.since, e.created with
  | some since, some created => since.le created
  | _, _ => true

/-- The poller with its watermark at an event id. -/
def seenUpTo (p : EventPoller) (id : Nat) : EventPoller :=
  { p with watermark := { p.watermark with lastSeen := id } }

/-- The poller after priming on the events already in the feed. -/
def primeFrom (p : EventPoller) (events : List Event) : EventPoller :=
  match ((events.filter p.matchesOperation).map (·.id)).max? with
  | some newest => p.seenUpTo (max p.watermark.lastSeen newest)
  | none => p

/-- The error of a failed event of the operation. -/
def failure (p : EventPoller) (e : Event) : ClientError :=
  .eventFailed (p.describe ++ " failed (event " ++ toString e.id ++ ")" ++
    (match e.message with | some m => ": " ++ m | none => "")) e

/-- Look at the events after `floor` in order, with the newest id and the oldest running event
of the operation seen so far. -/
def scan (p : EventPoller) (floor : Nat) :
    List Event → Nat → Option Nat → Except ClientError (Option Event) × EventPoller
  | [], newest, pending =>
    (.ok none, p.seenUpTo (match pending with | some q => max floor (q - 1) | none => newest))
  | e :: rest, newest, pending =>
    if e.id ≤ floor then scan p floor rest newest pending
    else
      let newest := max newest e.id
      if !p.isTarget e then scan p floor rest newest pending
      else match e.status with
        | .finished => (.ok (some e), p.seenUpTo e.id)
        | .failed => (.error (p.failure e), p.seenUpTo e.id)
        | _ => scan p floor rest newest (some (match pending with | some q => min q e.id | none => e.id))

/-- What a page of the feed shows: the finished event, a failure, or nothing yet, and the poller
with its watermark moved. -/
def examine (p : EventPoller) (events : List Event) : Except ClientError (Option Event) × EventPoller :=
  let floor := p.watermark.lastSeen
  scan p floor (events.mergeSort fun a b => a.id ≤ b.id) floor none

/-- The error of polling before the entity id is known. -/
def unset (p : EventPoller) : ClientError := .validation ("entity id not set for " ++ p.describe)

/-- Poll the feed once. -/
def pollOnce (p : EventPoller) : Call (Except ClientError (Option Event) × EventPoller) := do
  if p.watermark.entityId.isEmpty then return (.error p.unset, p)
  match ← Client.listEvents p.query with
  | .error e => return (.error e, p)
  | .ok events => return p.examine events

/-- A computation on a client with an event poller beside it. -/
abbrev PollerM := StateT EventPoller ClientM

/-- One poll as a check of a wait begun at instant `now`. The watermark moves only if the check
wins its race. -/
def probe (now : Nat) : PollerM (Wait.Probe PollerM (Option Event)) := do
  let p ← get
  if p.watermark.entityId.isEmpty then
    return { delay := 0, result := .error p.unset, settle := pure () }
  let found ← liftM ((Client.listEvents p.query).probe now)
  let (verdict, moved) : Except ClientError (Option Event) × EventPoller :=
    match found.result with
    | .error e => (.error e, p)
    | .ok events => p.examine events
  return { delay := found.delay, result := verdict, yields := found.yields,
           settle := do liftM found.settle; set moved }

/-- Poll until the operation's event has finished, on the schedule `s`. -/
def waitFinished (p : EventPoller) (s : Wait.Schedule) : ClientM (Except ClientError Event) := do
  let started ← getThe Client
  let ((r, progress), _) ←
    (Wait.run p.describe s started.clock probe Option.isSome (s.timeout + 2)).run p
  modify (·.afterWait started.origin progress)
  return r.bind fun
    | some e => .ok e
    | none => .error (.pollTimeout p.describe (Span.ofMillis s.timeout))

end EventPoller

namespace Client

/-- A poller for an operation, primed on the feed. -/
def newPoller (w : Watermark) : Call (Except ClientError EventPoller) := do
  let p : EventPoller := { watermark := w }
  return (← listEvents p.query).map p.primeFrom

/-- Wait for an operation's event created at or after `since` to finish. -/
def waitEventFinished (w : Watermark) (since : Stamp) (s : Wait.Schedule) :
    ClientM (Except ClientError Event) :=
  EventPoller.waitFinished { watermark := w, since := some since } s

/-- Wait until no event of an entity is running. -/
def waitResourceFree (t : EntityType) (id : String) (s : Wait.Schedule) :
    ClientM (Except ClientError Unit) := do
  let r ← waitFor (t.name ++ " " ++ id ++ " to have no running events") s
    (listEvents (feedQuery t id none))
    fun events => !events.any fun e => e.status.isInProgress && e.concerns t id
  return r.map fun _ => ()

end Client

end CloudApi
