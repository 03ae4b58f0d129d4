import CloudApi.Client.Execute
import CloudApi.Resource.Instance
import CloudApi.Resource.Volume
import CloudApi.Resource.Cluster
import CloudApi.Resource.Database
import CloudApi.Resource.Region
import CloudApi.Resource.Event
import CloudApi.Web.Percent

/-!
# Resource calls

The calls on the API's resources, each a path under the versioned base address. Regions and
kernels rarely change, so they are read through the response cache. A caller's text in a path,
a database engine or a region id, is percent-encoded as one segment.
-/

namespace CloudApi

namespace Client

/-- An instance. -/
def getInstance (id : Nat) : Call (Except ClientError Instance) :=
  Client.get ("linode/instances/" ++ toString id) Instance.decode

/-- The disks of an instance. -/
def listInstanceDisks (id : Nat) (opts : ListOptions) : Call (Except ClientError (List Disk)) :=
  list ("linode/instances/" ++ toString id ++ "/disks") opts Disk.decode

/-- A backup snapshot of an instance. -/
def getSnapshot (instanceId snapshotId : Nat) : Call (Except ClientError Snapshot) :=
  Client.get ("linode/instances/" ++ toString instanceId ++ "/backups/" ++ toString snapshotId)
    Snapshot.decode

/-- A volume. -/
def getVolume (id : Nat) : Call (Except ClientError Volume) :=
  Client.get ("volumes/" ++ toString id) Volume.decode

/-- A Kubernetes cluster. -/
def getCluster (id : Nat) : Call (Except ClientError Cluster) :=
  Client.get ("lke/clusters/" ++ toString id) Cluster.decode

/-- A node pool of a Kubernetes cluster. -/
def getNodePool (clusterId poolId : Nat) : Call (Except ClientError NodePool) :=
  Client.get ("lke/clusters/" ++ toString clusterId ++ "/pools/" ++ toString poolId) NodePool.decode

/-- The kubeconfig of a Kubernetes cluster. -/
def getKubeconfig (id : Nat) : Call (Except ClientError Kubeconfig) :=
  Client.get ("lke/clusters/" ++ toString id ++ "/kubeconfig") Kubeconfig.decode

/-- A database of an engine. -/
def getDatabase (engine : String) (id : Nat) : Call (Except ClientError Database) :=
  Client.get ("databases/" ++ Web.percentEncode .segment engine ++ "/instances/" ++ toString id)
    Database.decode

/-- The regions, through the cache. -/
def listRegions (opts : ListOptions) : Call (Except ClientError (List Region)) :=
  listCached "regions" opts Region.decode

/-- A region, through the cache. -/
def getRegion (id : String) : Call (Except ClientError Region) :=
  getCached ("regions/" ++ Web.percentEncode .segment id) Region.decode

/-- The kernels, through the cache. -/
def listKernels (opts : ListOptions) : Call (Except ClientError (List Kernel)) :=
  listCached "linode/kernels" opts Kernel.decode

/-- The account's events. -/
def listEvents (opts : ListOptions) : Call (Except ClientError (List Event)) :=
  list "account/events" opts Event.decode

/-- An event. -/
def getEvent (id : Nat) : Call (Except ClientError Event) :=
  Client.get ("account/events/" ++ toString id) Event.decode

/-- Mark an event, and every older one, as seen. -/
def markEventSeen (id : Nat) : Call (Except ClientError Unit) := do
  let r ← post ("account/events/" ++ toString id ++ "/seen") (.obj []) Source.value
  return r.map fun _ => ()

end Client

end CloudApi
