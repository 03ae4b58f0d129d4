import CloudApi.Resource.Wire

/-!
# Instances, disks and snapshots

A compute instance with its status, the disks of an instance, and its backup snapshots, each
decoded from and encoded to the JSON the API uses. A status the library does not know decodes
to `unknown`; instance statuses are written in snake case, disk and snapshot statuses by the
API's own names, and their unknown variant as `Unknown`.
-/

namespace CloudApi

/-- The state of an instance. -/
inductive InstanceStatus where
  | running | offline | booting | rebooting | shuttingDown | provisioning | deleting
  | migrating | rebuilding | cloning | restoring | stopped | resizing | billingSuspension
  | unknown
  deriving Repr, DecidableEq, Inhabited

namespace InstanceStatus

/-- Every status with its wire name and its name in messages. -/
def table : List (InstanceStatus × String × String) :=
  [(.running, "running", "Running"), (.offline, "offline", "Offline"),
   (.booting, "booting", "Booting"), (.rebooting, "rebooting", "Rebooting"),
   (.shuttingDown, "shutting_down", "ShuttingDown"),
   (.provisioning, "provisioning", "Provisioning"), (.deleting, "deleting", "Deleting"),
   (.migrating, "migrating", "Migrating"), (.rebuilding, "rebuilding", "Rebuilding"),
   (.cloning, "cloning", "Cloning"), (.restoring, "restoring", "Restoring"),
   (.stopped, "stopped", "Stopped"), (.resizing, "resizing", "Resizing"),
   (.billingSuspension, "billing_suspension", "BillingSuspension"),
   (.unknown, "unknown", "Unknown")]

/-- The status a wire name stands for. -/
def ofName (s : String) : InstanceStatus :=
  ((table.find? (·.2.1 == s)).map (·.1)).getD .unknown

/-- The wire name of a status. -/
def name (st : InstanceStatus) : String :=
  ((table.find? (·.1 == st)).map (·.2.1)).getD "unknown"

/-- The name of a status in messages. -/
def label (st : InstanceStatus) : String :=
  ((table.find? (·.1 == st)).map (·.2.2)).getD "Unknown"

/-- Decodes a status. -/
def decode {m : Type → Type} [Source m] : m InstanceStatus := Source.variant ofName

end InstanceStatus

/-- A compute instance. -/
structure Instance where
  id : Nat := 0
  label : String := ""
  status : InstanceStatus := .unknown
  region : Option String := none
  type : Option String := none
  image : Option String := none
  ipv4 : List String := []
  tags : List String := []
  created : Option Stamp := none
  updated : Option Stamp := none
  deriving Repr, BEq, Inhabited

/-- Decodes an instance. -/
def Instance.decode {m : Type → Type} [Source m] : m Instance :=
  Source.record "Instance"
    [.req "id" Source.u64 fun s v => { s with id := v },
     .req "label" Source.string fun s v => { s with label := v },
     .req "status" InstanceStatus.decode fun s v => { s with status := v },
     .dflt "region" (Source.option Source.string) fun s v => { s with region := v },
     .dflt "type" (Source.option Source.string) fun s v => { s with type := v },
     .dflt "image" (Source.option Source.string) fun s v => { s with image := v },
     .dflt "ipv4" Source.strings fun s v => { s with ipv4 := v },
     .dflt "tags" Source.strings fun s v => { s with tags := v },
     .dflt "created" (Source.option Source.stamp) fun s v => { s with created := v },
     .dflt "updated" (Source.option Source.stamp) fun s v => { s with updated := v }] {}

/-- The JSON of an instance. -/
def Instance.toJson (i : Instance) : Json :=
  .mkObj [("id", .nat i.id), ("label", .str i.label), ("status", .str i.status.name),
    ("region", .optStr i.region), ("type", .optStr i.type), ("image", .optStr i.image),
    ("ipv4", .ofStrings i.ipv4), ("tags", .ofStrings i.tags), ("created", .optStamp i.created),
    ("updated", .optStamp i.updated)]

/-- The state of a disk. -/
inductive DiskStatus where
  | ready | notReady | deleting | unknown
  deriving Repr, DecidableEq, Inhabited

namespace DiskStatus

/-- Every status with its wire name and its name in messages. -/
def table : List (DiskStatus × String × String) :=
  [(.ready, "ready", "Ready"), (.notReady, "not ready", "NotReady"),
   (.deleting, "deleting", "Deleting"), (.unknown, "Unknown", "Unknown")]

/-- The status a wire name stands for. -/
def ofName (s : String) : DiskStatus :=
  ((table.find? (·.2.1 == s)).map (·.1)).getD .unknown

/-- The wire name of a status. -/
def name (st : DiskStatus) : String :=
  ((table.find? (·.1 == st)).map (·.2.1)).getD "Unknown"

/-- The name of a status in messages. -/
def label (st : DiskStatus) : String :=
  ((table.find? (·.1 == st)).map (·.2.2)).getD "Unknown"

/-- Decodes a status. -/
def decode {m : Type → Type} [Source m] : m DiskStatus := Source.variant ofName

end DiskStatus

/-- A disk of an instance. -/
structure Disk where
  id : Nat := 0
  label : String := ""
  status : DiskStatus := .unknown
  size : Nat := 0
  filesystem : Option String := none
  created : Option Stamp := none
  updated : Option Stamp := none
  deriving Repr, BEq, Inhabited

/-- Decodes a disk. -/
def Disk.decode {m : Type → Type} [Source m] : m Disk :=
  Source.record "InstanceDisk"
    [.req "id" Source.u64 fun s v => { s with id := v },
     .req "label" Source.string fun s v => { s with label := v },
     .req "status" DiskStatus.decode fun s v => { s with status := v },
     .dflt "size" Source.u64 fun s v => { s with size := v },
     .dflt "filesystem" (Source.option Source.string) fun s v => { s with filesystem := v },
     .dflt "created" (Source.option Source.stamp) fun s v => { s with created := v },
     .dflt "updated" (Source.option Source.stamp) fun s v => { s with updated := v }] {}

/-- The JSON of a disk. -/
def Disk.toJson (d : Disk) : Json :=
  .mkObj [("id", .nat d.id), ("label", .str d.label), ("status", .str d.status.name),
    ("size", .nat d.size), ("filesystem", .optStr d.filesystem),
    ("created", .optStamp d.created), ("updated", .optStamp d.updated)]

/-- The state of a backup snapshot. -/
inductive SnapshotStatus where
  | paused | pending | running | needsPostProcessing | successful | failed | userAborted
  | unknown
  deriving Repr, DecidableEq, Inhabited

namespace SnapshotStatus

/-- Every status with its wire name and its name in messages. -/
def table : List (SnapshotStatus × String × String) :=
  [(.paused, "paused", "Paused"), (.pending, "pending", "Pending"),
   (.running, "running", "Running"),
   (.needsPostProcessing, "needsPostProcessing", "NeedsPostProcessing"),
   (.successful, "successful", "Successful"), (.failed, "failed", "Failed"),
   (.userAborted, "userAborted", "UserAborted"), (.unknown, "Unknown", "Unknown")]

/-- The status a wire name stands for. -/
def ofName (s : String) : SnapshotStatus :=
  ((table.find? (·.2.1 == s)).map (·.1)).getD .unknown

/-- The wire name of a status. -/
def name (st : SnapshotStatus) : String :=
  ((table.find? (·.1 == st)).map (·.2.1)).getD "Unknown"

/-- The name of a status in messages. -/
def label (st : SnapshotStatus) : String :=
  ((table.find? (·.1 == st)).map (·.2.2)).getD "Unknown"

/-- Decodes a status. -/
def decode {m : Type → Type} [Source m] : m SnapshotStatus := Source.variant ofName

end SnapshotStatus

/-- A backup snapshot of an instance. -/
structure Snapshot where
  id : Nat := 0
  label : Option String := none
  status : SnapshotStatus := .unknown
  type : Option String := none
  created : Option Stamp := none
  updated : Option Stamp := none
  finished : Option Stamp := none
  deriving Repr, BEq, Inhabited

/-- Decodes a snapshot. -/
def Snapshot.decode {m : Type → Type} [Source m] : m Snapshot :=
  Source.record "InstanceSnapshot"
    [.req "id" Source.u64 fun s v => { s with id := v },
     .dflt "label" (Source.option Source.string) fun s v => { s with label := v },
     .req "status" SnapshotStatus.decode fun s v => { s with status := v },
     .dflt "type" (Source.option Source.string) fun s v => { s with type := v },
     .dflt "created" (Source.option Source.stamp) fun s v => { s with created := v },
     .dflt "updated" (Source.option Source.stamp) fun s v => { s with updated := v },
     .dflt "finished" (Source.option Source.stamp) fun s v => { s with finished := v }] {}

/-- The JSON of a snapshot. -/
def Snapshot.toJson (s : Snapshot) : Json :=
  .mkObj [("id", .nat s.id), ("label", .optStr s.label), ("status", .str s.status.name),
    ("type", .optStr s.type), ("created", .optStamp s.created), ("updated", .optStamp s.updated),
    ("finished", .optStamp s.finished)]

end CloudApi
