import CloudApi.Resource.Wire
import CloudApi.Json.Print

/-!
# Events

The account's event feed: each event records an action on an entity (and perhaps a second
one), with a status. `EventStatus.isTerminal` holds for finished and failed events,
`EventStatus.isInProgress` for scheduled and started ones. An entity's id is any JSON value;
`EventEntity.idText` reads it as text: a string as itself, null as the empty text, anything
else as its JSON. `Event.concerns` says whether an event's entity has a given type and id.
-/

namespace CloudApi

/-- The state of an event. -/
inductive EventStatus where
  | scheduled | started | finished | failed | notification | unknown
  deriving Repr, BEq, DecidableEq, Inhabited

namespace EventStatus

/-- Every status with its wire name. -/
def table : List (EventStatus × String) :=
  [(.scheduled, "scheduled"), (.started, "started"), (.finished, "finished"),
   (.failed, "failed"), (.notification, "notification"), (.unknown, "unknown")]

/-- The status a wire name stands for. -/
def ofName (s : String) : EventStatus :=
  ((table.find? (·.2 == s)).map (·.1)).getD .unknown

/-- The wire name of a status. -/
def name (st : EventStatus) : String :=
  ((table.find? (·.1 == st)).map (·.2)).getD "unknown"

/-- Decodes a status. -/
def decode {m : Type → Type} [Source m] : m EventStatus := Source.variant ofName

/-- A finished or failed event will not change again. -/
def isTerminal : EventStatus → Bool
  | .finished | .failed => true
  | _ => false

/-- A scheduled or started event is still running. -/
def isInProgress : EventStatus → Bool
  | .scheduled | .started => true
  | _ => false

end EventStatus

/-- The kind of entity an event is about. -/
inductive EntityType where
  | linode | disk | database | domain | firewall | image | lkecluster | nodebalancer | volume
  | vpc | unknown
  deriving Repr, BEq, DecidableEq, Inhabited

namespace EntityType

/-- Every type with its name. -/
def table : List (EntityType × String) :=
  [(.linode, "linode"), (.disk, "disk"), (.database, "database"), (.domain, "domain"),
   (.firewall, "firewall"), (.image, "image"), (.lkecluster, "lkecluster"),
   (.nodebalancer, "nodebalancer"), (.volume, "volume"), (.vpc, "vpc"), (.unknown, "unknown")]

/-- The type a name stands for. -/
def ofName (s : String) : EntityType :=
  ((table.find? (·.2 == s)).map (·.1)).getD .unknown

/-- The name of a type. -/
def name (t : EntityType) : String :=
  ((table.find? (·.1 == t)).map (·.2)).getD "unknown"

/-- Decodes a type. -/
def decode {m : Type → Type} [Source m] : m EntityType := Source.variant ofName

/-- The types whose events the feed can be filtered by entity for. -/
def supportsFeedFilter : EntityType → Bool
  | .disk | .linode | .domain | .nodebalancer => true
  | _ => false

end EntityType

/-- The entity an event is about. -/
structure EventEntity where
  id : Json := .null
  type : EntityType := .unknown
  label : Option String := none
  url : Option String := none
  deriving Inhabited

/-- Decodes an entity. -/
def EventEntity.decode {m : Type → Type} [Source m] : m EventEntity :=
  Source.record "EventEntity"
    [.dflt "id" Source.value fun s v => { s with id := v },
     .req "type" EntityType.decode fun s v => { s with type := v },
     .dflt "label" (Source.option Source.string) fun s v => { s with label := v },
     .dflt "url" (Source.option Source.string) fun s v => { s with url := v }] {}

/-- The JSON of an entity. -/
def EventEntity.toJson (e : EventEntity) : Json :=
  .mkObj [("id", e.id), ("type", .str e.type.name), ("label", .optStr e.label),
    ("url", .optStr e.url)]

/-- An entity's id as text: a string as itself, null as empty, anything else as its JSON. -/
def EventEntity.idText (e : EventEntity) : String :=
  match e.id with
  | .str s => s
  | .null => ""
  | v => v.render

/-- An event of the account's feed. -/
structure Event where
  id : Nat := 0
  status : EventStatus := .unknown
  action : String := ""
  percentComplete : Option Nat := none
  created : Option Stamp := none
  seen : Bool := false
  read : Bool := false
  entity : Option EventEntity := none
  secondaryEntity : Option EventEntity := none
  username : Option String := none
  message : Option String := none
  timeRemaining : Option Nat := none
  duration : Option Float := none
  deriving Inhabited

/-- Decodes an event. -/
def Event.decode {m : Type → Type} [Source m] : m Event :=
  Source.record "Event"
    [.req "id" Source.u64 fun s v => { s with id := v },
     .dflt "status" EventStatus.decode fun s v => { s with status := v },
     .req "action" Source.string fun s v => { s with action := v },
     .dflt "percent_complete" (Source.option Source.u32) fun s v => { s with percentComplete := v },
     .dflt "created" (Source.option Source.stamp) fun s v => { s with created := v },
     .dflt "seen" Source.bool fun s v => { s with seen := v },
     .dflt "read" Source.bool fun s v => { s with read := v },
     .dflt "entity" (Source.option EventEntity.decode) fun s v => { s with entity := v },
     .dflt "secondary_entity" (Source.option EventEntity.decode) fun s v =>
       { s with secondaryEntity := v },
     .dflt "username" (Source.option Source.string) fun s v => { s with username := v },
     .dflt "message" (Source.option Source.string) fun s v => { s with message := v },
     .dflt "time_remaining" (Source.option Source.u64) fun s v => { s with timeRemaining := v },
     .dflt "duration" (Source.option Source.f64) fun s v => { s with duration := v }] {}

/-- The JSON of an event. -/
def Event.toJson (e : Event) : Json :=
  .mkObj [("id", .nat e.id), ("status", .str e.status.name), ("action", .str e.action),
    ("percent_complete", .optNat e.percentComplete), ("created", .optStamp e.created),
    ("seen", .bool e.seen), ("read", .bool e.read),
    ("entity", .ofOption EventEntity.toJson e.entity),
    ("secondary_entity", .ofOption EventEntity.toJson e.secondaryEntity),
    ("username", .optStr e.username), ("message", .optStr e.message),
    ("time_remaining", .optNat e.timeRemaining), ("duration", .ofOption Json.float e.duration)]

/-- Whether an event's entity has type `t` and id `id`. -/
def Event.concerns (e : Event) (t : EntityType) (id : String) : Bool :=
  match e.entity with
  | some ent => ent.type == t && ent.idText == id
  | none => false

end CloudApi
