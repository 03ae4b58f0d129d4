import CloudApi.Resource.Wire

/-!
# Block storage volumes

A volume, its status, and the instance it is attached to, if any.
-/

namespace CloudApi

/-- The state of a volume. -/
inductive VolumeStatus where
  | creating | active | resizing | contactSupport | unknown
  deriving Repr, DecidableEq, Inhabited

namespace VolumeStatus

/-- Every status with its wire name and its name in messages. -/
def table : List (VolumeStatus × String × String) :=
  [(.creating, "creating", "Creating"), (.active, "active", "Active"),
   (.resizing, "resizing", "Resizing"), (.contactSupport, "contact_support", "ContactSupport"),
   (.unknown, "unknown", "Unknown")]

/-- The status a wire name stands for. -/
def ofName (s : String) : VolumeStatus :=
  ((table.find? (·.2.1 == s)).map (·.1)).getD .unknown

/-- The wire name of a status. -/
def name (st : VolumeStatus) : String :=
  ((table.find? (·.1 == st)).map (·.2.1)).getD "unknown"

/-- The name of a status in messages. -/
def label (st : VolumeStatus) : String :=
  ((table.find? (·.1 == st)).map (·.2.2)).getD "Unknown"

/-- Decodes a status. -/
def decode {m : Type → Type} [Source m] : m VolumeStatus := Source.variant ofName

end VolumeStatus

/-- A block storage volume. -/
structure Volume where
  id : Nat := 0
  label : String := ""
  status : VolumeStatus := .unknown
  region : Option String := none
  size : Nat := 0
  linodeId : Option Nat := none
  filesystemPath : Option String := none
  tags : List String := []
  created : Option Stamp := none
  updated : Option Stamp := none
  deriving Repr, BEq, Inhabited

/-- Decodes a volume. -/
def Volume.decode {m : Type → Type} [Source m] : m Volume :=
  Source.record "Volume"
    [.req "id" Source.u64 fun s v => { s with id := v },
     .req "label" Source.string fun s v => { s with label := v },
     .req "status" VolumeStatus.decode fun s v => { s with status := v },
     .dflt "region" (Source.option Source.string) fun s v => { s with region := v },
     .dflt "size" Source.u64 fun s v => { s with size := v },
     .dflt "linode_id" (Source.option Source.u64) fun s v => { s with linodeId := v },
     .dflt "filesystem_path" (Source.option Source.string) fun s v =>
       { s with filesystemPath := v },
     .dflt "tags" Source.strings fun s v => { s with tags := v },
     .dflt "created" (Source.option Source.stamp) fun s v => { s with created := v },
     .dflt "updated" (Source.option Source.stamp) fun s v => { s with updated := v }] {}

/-- The JSON of a volume. -/
def Volume.toJson (v : Volume) : Json :=
  .mkObj [("id", .nat v.id), ("label", .str v.label), ("status", .str v.status.name),
    ("region", .optStr v.region), ("size", .nat v.size), ("linode_id", .optNat v.linodeId),
    ("filesystem_path", .optStr v.filesystemPath), ("tags", .ofStrings v.tags),
    ("created", .optStamp v.created), ("updated", .optStamp v.updated)]

end CloudApi
