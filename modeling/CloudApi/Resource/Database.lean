import CloudApi.Resource.Wire

/-!
# Managed databases

A managed database instance of some engine, with its status.
-/

namespace CloudApi

/-- The state of a managed database. -/
inductive DatabaseStatus where
  | provisioning | active | deleting | deleted | suspending | suspended | resuming | restoring
  | failed | degraded | updating | backingUp | unknown
  deriving Repr, DecidableEq, Inhabited

namespace DatabaseStatus

/-- Every status with its wire name and its name in messages. -/
def table : List (DatabaseStatus × String × String) :=
  [(.provisioning, "provisioning", "Provisioning"), (.active, "active", "Active"),
   (.deleting, "deleting", "Deleting"), (.deleted, "deleted", "Deleted"),
   (.suspending, "suspending", "Suspending"), (.suspended, "suspended", "Suspended"),
   (.resuming, "resuming", "Resuming"), (.restoring, "restoring", "Restoring"),
   (.failed, "failed", "Failed"), (.degraded, "degraded", "Degraded"),
   (.updating, "updating", "Updating"), (.backingUp, "backing_up", "BackingUp"),
   (.unknown, "unknown", "Unknown")]

/-- The status a wire name stands for. -/
def ofName (s : String) : DatabaseStatus :=
  ((table.find? (·.2.1 == s)).map (·.1)).getD .unknown

/-- The wire name of a status. -/
def name (st : DatabaseStatus) : String :=
  ((table.find? (·.1 == st)).map (·.2.1)).getD "unknown"

/-- The name of a status in messages. -/
def label (st : DatabaseStatus) : String :=
  ((table.find? (·.1 == st)).map (·.2.2)).getD "Unknown"

/-- Decodes a status. -/
def decode {m : Type → Type} [Source m] : m DatabaseStatus := Source.variant ofName

end DatabaseStatus

/-- A managed database instance. -/
structure Database where
  id : Nat := 0
  label : String := ""
  status : DatabaseStatus := .unknown
  engine : Option String := none
  version : Option String := none
  region : Option String := none
  clusterSize : Nat := 0
  created : Option Stamp := none
  updated : Option Stamp := none
  deriving Repr, BEq, Inhabited

/-- Decodes a database. -/
def Database.decode {m : Type → Type} [Source m] : m Database :=
  Source.record "Database"
    [.req "id" Source.u64 fun s v => { s with id := v },
     .req "label" Source.string fun s v => { s with label := v },
     .req "status" DatabaseStatus.decode fun s v => { s with status := v },
     .dflt "engine" (Source.option Source.string) fun s v => { s with engine := v },
     .dflt "version" (Source.option Source.string) fun s v => { s with version := v },
     .dflt "region" (Source.option Source.string) fun s v => { s with region := v },
     .dflt "cluster_size" Source.u32 fun s v => { s with clusterSize := v },
     .dflt "created" (Source.option Source.stamp) fun s v => { s with created := v },
     .dflt "updated" (Source.option Source.stamp) fun s v => { s with updated := v }] {}

/-- The JSON of a database. -/
def Database.toJson (d : Database) : Json :=
  .mkObj [("id", .nat d.id), ("label", .str d.label), ("status", .str d.status.name),
    ("engine", .optStr d.engine), ("version", .optStr d.version), ("region", .optStr d.region),
    ("cluster_size", .nat d.clusterSize), ("created", .optStamp d.created),
    ("updated", .optStamp d.updated)]

end CloudApi
