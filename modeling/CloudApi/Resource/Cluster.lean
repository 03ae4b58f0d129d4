import CloudApi.Resource.Wire
import CloudApi.Text.Base64
import CloudApi.Text.Utf8

/-!
# Kubernetes clusters

A managed Kubernetes cluster, its node pools and their nodes, and the base64-encoded kubeconfig
of a cluster. A pool is ready when it has as many nodes as it asks for and all of them are
ready. A kubeconfig decodes from its trimmed text, which must be base64 of UTF-8.
-/

namespace CloudApi

/-- The state of a cluster or a node. -/
inductive ClusterStatus where
  | ready | notReady | unknown
  deriving Repr, DecidableEq, Inhabited

namespace ClusterStatus

/-- Every status with its wire name and its name in messages. -/
def table : List (ClusterStatus × String × String) :=
  [(.ready, "ready", "Ready"), (.notReady, "not_ready", "NotReady"),
   (.unknown, "unknown", "Unknown")]

/-- The status a wire name stands for. -/
def ofName (s : String) : ClusterStatus :=
  ((table.find? (·.2.1 == s)).map (·.1)).getD .unknown

/-- The wire name of a status. -/
def name (st : ClusterStatus) : String :=
  ((table.find? (·.1 == st)).map (·.2.1)).getD "unknown"

/-- The name of a status in messages. -/
def label (st : ClusterStatus) : String :=
  ((table.find? (·.1 == st)).map (·.2.2)).getD "Unknown"

/-- Decodes a status. -/
def decode {m : Type → Type} [Source m] : m ClusterStatus := Source.variant ofName

end ClusterStatus

/-- A managed Kubernetes cluster. -/
structure Cluster where
  id : Nat := 0
  label : String := ""
  status : ClusterStatus := .unknown
  region : Option String := none
  k8sVersion : Option String := none
  tags : List String := []
  created : Option Stamp := none
  updated : Option Stamp := none
  deriving Repr, BEq, Inhabited

/-- Decodes a cluster. -/
def Cluster.decode {m : Type → Type} [Source m] : m Cluster :=
  Source.record "LkeCluster"
    [.req "id" Source.u64 fun s v => { s with id := v },
     .req "label" Source.string fun s v => { s with label := v },
     .req "status" ClusterStatus.decode fun s v => { s with status := v },
     .dflt "region" (Source.option Source.string) fun s v => { s with region := v },
     .dflt "k8s_version" (Source.option Source.string) fun s v => { s with k8sVersion := v },
     .dflt "tags" Source.strings fun s v => { s with tags := v },
     .dflt "created" (Source.option Source.stamp) fun s v => { s with created := v },
     .dflt "updated" (Source.option Source.stamp) fun s v => { s with updated := v }] {}

/-- The JSON of a cluster. -/
def Cluster.toJson (c : Cluster) : Json :=
  .mkObj [("id", .nat c.id), ("label", .str c.label), ("status", .str c.status.name),
    ("region", .optStr c.region), ("k8s_version", .optStr c.k8sVersion),
    ("tags", .ofStrings c.tags), ("created", .optStamp c.created),
    ("updated", .optStamp c.updated)]

/-- A node of a pool. -/
structure Node where
  id : String := ""
  instanceId : Option Nat := none
  status : ClusterStatus := .unknown
  deriving Repr, BEq, Inhabited

/-- Decodes a node. -/
def Node.decode {m : Type → Type} [Source m] : m Node :=
  Source.record "LkeNode"
    [.req "id" Source.string fun s v => { s with id := v },
     .dflt "instance_id" (Source.option Source.u64) fun s v => { s with instanceId := v },
     .req "status" ClusterStatus.decode fun s v => { s with status := v }] {}

/-- The JSON of a node. -/
def Node.toJson (n : Node) : Json :=
  .mkObj [("id", .str n.id), ("instance_id", .optNat n.instanceId),
    ("status", .str n.status.name)]

/-- A node pool of a cluster. -/
structure NodePool where
  id : Nat := 0
  count : Nat := 0
  type : Option String := none
  nodes : List Node := []
  tags : List String := []
  deriving Repr, BEq, Inhabited

/-- Decodes a node pool. -/
def NodePool.decode {m : Type → Type} [Source m] : m NodePool :=
  Source.record "LkeNodePool"
    [.req "id" Source.u64 fun s v => { s with id := v },
     .req "count" Source.u32 fun s v => { s with count := v },
     .dflt "type" (Source.option Source.string) fun s v => { s with type := v },
     .dflt "nodes" (Source.list Node.decode) fun s v => { s with nodes := v },
     .dflt "tags" Source.strings fun s v => { s with tags := v }] {}

/-- The JSON of a node pool. -/
def NodePool.toJson (p : NodePool) : Json :=
  .mkObj [("id", .nat p.id), ("count", .nat p.count), ("type", .optStr p.type),
    ("nodes", .arr (p.nodes.map Node.toJson)), ("tags", .ofStrings p.tags)]

/-- A pool is ready when it has as many nodes as it asks for, all of them ready. -/
def NodePool.isReady (p : NodePool) : Bool :=
  p.nodes.length == p.count && p.nodes.all (·.status == .ready)

/-- The kubeconfig of a cluster, base64 encoded. -/
structure Kubeconfig where
  kubeconfig : String := ""
  deriving Repr, BEq, Inhabited

/-- Decodes a kubeconfig. -/
def Kubeconfig.decode {m : Type → Type} [Source m] : m Kubeconfig :=
  Source.record "LkeKubeconfig"
    [.req "kubeconfig" Source.string fun _ v => ⟨v⟩] {}

/-- The JSON of a kubeconfig. -/
def Kubeconfig.toJson (k : Kubeconfig) : Json := .mkObj [("kubeconfig", .str k.kubeconfig)]

/-- Why a kubeconfig does not decode. -/
inductive KubeconfigFault where
  | encoding (f : Base64.Fault)
  | text (f : Utf8.Fault)

/-- The text of a kubeconfig fault. -/
def KubeconfigFault.message : KubeconfigFault → String
  | .encoding f => "invalid kubeconfig encoding: " ++ f.message
  | .text f => "kubeconfig is not UTF-8: " ++ f.message

/-- The YAML text of a kubeconfig. -/
def Kubeconfig.text (k : Kubeconfig) : Except KubeconfigFault String :=
  match Base64.decode (Text.trim k.kubeconfig) with
  | .error f => .error (.encoding f)
  | .ok bytes =>
    match Utf8.decode? bytes with
    | .ok s => .ok s
    | .error f => .error (.text f)

end CloudApi
