import CloudApi.Client.Resources
import CloudApi.Wait.Poll

/-!
# Waiting for resources

Each helper fetches a resource again and again on the client's clock until it reaches a state,
as `Wait.run` times it. A fetch that fails ends the wait with its error. The plain helpers take a
timeout in seconds and poll at the client's interval. The others take a whole schedule.

A fetch is one check of a wait. What the fetch does before it first waits on the network happens
whenever the check starts. The rest happens only if the check wins its race. A wait whose deadline
or a wake-up is past the range of the system's clock stops the program.
-/

namespace CloudApi

/-- A call as one check of a wait begun at instant `now`: how long it takes, what it finds,
whether it waits on the network, and its remainder. -/
def Call.probe {α : Type} (c : Call (Except ClientError α)) (now : Nat) :
    ClientM (Wait.Probe ClientM α) := do
  modify fun cl => { cl with clock := now }
  match ← c.start with
  | .landed r => pure { delay := 0, result := r, settle := pure () }
  | .waiting rest =>
    let paused ← getThe Client
    let (r, done) := Id.run (rest.run paused)
    pure { delay := done.clock - now, result := r, yields := true, settle := set done }

namespace Client

/-- The schedule of a plain helper: the client's interval and a timeout in seconds. -/
def pollOptions (c : Client) (timeoutSecs : Nat) : Wait.Schedule :=
  { interval := c.pollInterval, timeout := timeoutSecs * 1000 }

/-- The client after a wait that ended at progress `p`, on a clock that read `origin` at its
instant 0: its clock where the wait ended, and its program stopped if the wait computed an instant
past the clock's range. -/
def afterWait (c : Client) (origin : Nat) (p : Wait.Progress) : Client :=
  { c with clock := p.now,
           halted := if Wait.fits origin p.reach then c.halted else some Wait.overflowMessage }

/-- Fetch until `accept` takes the state, on the client's clock, which ends where the wait
ended. -/
def waitFor {α : Type} (what : String) (s : Wait.Schedule) (fetch : Call (Except ClientError α))
    (accept : α → Bool) : ClientM (Except ClientError α) := do
  let started ← getThe Client
  let (r, p) ← Wait.run what s started.clock fetch.probe accept (s.timeout + 2)
  modify (·.afterWait started.origin p)
  pure r

/-- Wait for an instance to reach a status. -/
def waitInstance (id : Nat) (status : InstanceStatus) (s : Wait.Schedule) :
    ClientM (Except ClientError Instance) :=
  waitFor ("instance " ++ toString id ++ " to be " ++ status.label) s (getInstance id)
    (·.status == status)

/-- The disk with id `diskId` in the list of an instance's disks, if the list holds one. -/
def findDisk (instanceId diskId : Nat) : Call (Except ClientError (Option Disk)) := do
  return (← listInstanceDisks instanceId {}).map fun ds => ds.find? (·.id == diskId)

/-- Fetch the disks of an instance until the one with id `diskId` is in a status: that disk, or
nothing if the last list did not hold it. -/
def waitDiskListed (instanceId diskId : Nat) (status : DiskStatus) (s : Wait.Schedule) :
    ClientM (Except ClientError (Option Disk)) :=
  waitFor ("disk " ++ toString diskId ++ " of instance " ++ toString instanceId ++ " to be " ++
    status.label) s (findDisk instanceId diskId) fun d => d.any (·.status == status)

/-- Wait for a disk of an instance to reach a status. -/
def waitDisk (instanceId diskId : Nat) (status : DiskStatus) (s : Wait.Schedule) :
    ClientM (Except ClientError Disk) := do
  let found ← waitDiskListed instanceId diskId status s
  return found.bind fun
    | some d => .ok d
    | none => .error (.validation ("disk " ++ toString diskId ++ " not found"))

/-- Wait for a volume to reach a status. -/
def waitVolume (id : Nat) (status : VolumeStatus) (s : Wait.Schedule) :
    ClientM (Except ClientError Volume) :=
  waitFor ("volume " ++ toString id ++ " to be " ++ status.label) s (getVolume id)
    (·.status == status)

/-- Wait for a volume to be attached to an instance, or detached for `none`. -/
def waitVolumeAttachment (id : Nat) (linodeId : Option Nat) (s : Wait.Schedule) :
    ClientM (Except ClientError Volume) :=
  let what := match linodeId with
    | some l => "volume " ++ toString id ++ " to attach to instance " ++ toString l
    | none => "volume " ++ toString id ++ " to detach"
  waitFor what s (getVolume id) (·.linodeId == linodeId)

/-- Wait for a snapshot of an instance to reach a status. -/
def waitSnapshot (instanceId snapshotId : Nat) (status : SnapshotStatus) (s : Wait.Schedule) :
    ClientM (Except ClientError Snapshot) :=
  waitFor ("snapshot " ++ toString snapshotId ++ " of instance " ++ toString instanceId ++
    " to be " ++ status.label) s (getSnapshot instanceId snapshotId) (·.status == status)

/-- Wait for a Kubernetes cluster to reach a status. -/
def waitCluster (id : Nat) (status : ClusterStatus) (s : Wait.Schedule) :
    ClientM (Except ClientError Cluster) :=
  waitFor ("LKE cluster " ++ toString id ++ " to be " ++ status.label) s (getCluster id)
    (·.status == status)

/-- Wait for every node of a node pool to be ready. -/
def waitPoolReady (clusterId poolId : Nat) (s : Wait.Schedule) :
    ClientM (Except ClientError NodePool) :=
  waitFor ("node pool " ++ toString poolId ++ " of LKE cluster " ++ toString clusterId ++
    " to be ready") s (getNodePool clusterId poolId) NodePool.isReady

/-- Wait for a database to reach a status. -/
def waitDatabase (engine : String) (id : Nat) (status : DatabaseStatus) (s : Wait.Schedule) :
    ClientM (Except ClientError Database) :=
  waitFor (engine ++ " database " ++ toString id ++ " to be " ++ status.label) s
    (getDatabase engine id) (·.status == status)

end Client

end CloudApi
