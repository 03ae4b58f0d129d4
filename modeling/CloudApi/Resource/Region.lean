import CloudApi.Resource.Wire

/-!
# Regions and kernels

The regions a resource can be placed in, and the kernels an instance can boot.
-/

namespace CloudApi

/-- A region. -/
structure Region where
  id : String := ""
  label : Option String := none
  country : Option String := none
  capabilities : List String := []
  status : Option String := none
  deriving Repr, BEq, Inhabited

/-- Decodes a region. -/
def Region.decode {m : Type → Type} [Source m] : m Region :=
  Source.record "Region"
    [.req "id" Source.string fun s v => { s with id := v },
     .dflt "label" (Source.option Source.string) fun s v => { s with label := v },
     .dflt "country" (Source.option Source.string) fun s v => { s with country := v },
     .dflt "capabilities" Source.strings fun s v => { s with capabilities := v },
     .dflt "status" (Source.option Source.string) fun s v => { s with status := v }] {}

/-- The JSON of a region. -/
def Region.toJson (r : Region) : Json :=
  .mkObj [("id", .str r.id), ("label", .optStr r.label), ("country", .optStr r.country),
    ("capabilities", .ofStrings r.capabilities), ("status", .optStr r.status)]

/-- A kernel an instance can boot. -/
structure Kernel where
  id : String := ""
  label : Option String := none
  version : Option String := none
  architecture : Option String := none
  kvm : Bool := false
  deprecated : Bool := false
  deriving Repr, BEq, Inhabited

/-- Decodes a kernel. -/
def Kernel.decode {m : Type → Type} [Source m] : m Kernel :=
  Source.record "Kernel"
    [.req "id" Source.string fun s v => { s with id := v },
     .dflt "label" (Source.option Source.string) fun s v => { s with label := v },
     .dflt "version" (Source.option Source.string) fun s v => { s with version := v },
     .dflt "architecture" (Source.option Source.string) fun s v => { s with architecture := v },
     .dflt "kvm" Source.bool fun s v => { s with kvm := v },
     .dflt "deprecated" Source.bool fun s v => { s with deprecated := v }] {}

/-- The JSON of a kernel. -/
def Kernel.toJson (k : Kernel) : Json :=
  .mkObj [("id", .str k.id), ("label", .optStr k.label), ("version", .optStr k.version),
    ("architecture", .optStr k.architecture), ("kvm", .bool k.kvm),
    ("deprecated", .bool k.deprecated)]

end CloudApi
