import CloudApi.Proofs.WaitEnds
import CloudApi.Proofs.EventVerdict

/-!
# The waits of the client and of an event poller

Each wait ends as the wait on the script of what its own checks find, and every helper answers
only with a resource in the state it waits for (`Client.waits_accept`).
-/

namespace CloudApi

namespace EventPoller

@[simp] theorem isTarget_seenUpTo (p : EventPoller) (m : Nat) :
    (p.seenUpTo m).isTarget = p.isTarget :=
  rfl

theorem check_outcome (now : Nat) (q : EventPoller) (c : Client) :
    (Wait.outcome check now (q, c)).1 = .error q.unset ∧ (Wait.outcome check now (q, c)).2.1 = q ∨
      ∃ r : Except ClientError (List Event),
        ((Wait.outcome check now (q, c)).1, (Wait.outcome check now (q, c)).2.1) =
          match r with
          | .error e => (.error e, q)
          | .ok events => q.examine events := by
  have opened : Wait.outcome check now (q, c) =
      let L := Wait.StateRun.layered EventPoller Client
      ((L.exec (probe now) (q, c)).1.result,
        (L.exec (L.exec (probe now) (q, c)).1.settle (L.exec (probe now) (q, c)).2).2) := rfl
  rw [opened]
  by_cases unset : q.watermark.entityId.isEmpty
  · left
    simp only [Wait.StateRun.layered, probe, StateT.run_bind, StateT.run_get, pure_bind, unset,
      ↓reduceIte, StateT.run_pure, Id.run_pure, and_true]
  · right
    simp only [Wait.StateRun.layered, probe, StateT.run_bind, StateT.run_get, pure_bind, unset,
      Bool.false_eq_true, ↓reduceIte, StateT.run_pure]
    exact ⟨_, rfl⟩

variable {p : EventPoller} {s : Wait.Schedule} {c : Client}

theorem run_check_eq :
    ((Wait.StateRun.layered EventPoller Client).exec
        (Wait.run p.describe s c.clock probe Option.isSome (s.timeout + 2)) (p, c)).1 =
      (Id.run ((Wait.run p.describe s c.clock check Option.isSome (s.timeout + 2)).run (p, c))).1 :=
  Wait.exec_run_probe _ _ _ _

theorem check_keeps_targets (now : Nat) (q : EventPoller) (c : Client) :
    (Wait.outcome check now (q, c)).2.1.isTarget = q.isTarget ∧
      ∀ e, (Wait.outcome check now (q, c)).1 = .ok (some e) →
        e.status = .finished ∧ q.isTarget e = true := by
  rcases check_outcome now q c with ⟨unset, kept⟩ | ⟨r, polled⟩
  · refine ⟨by rw [kept], fun e got => ?_⟩
    rw [unset] at got
    cases got
  · cases r with
    | error err =>
      obtain ⟨failed, kept⟩ := Prod.mk.inj polled
      refine ⟨by rw [kept], fun e got => ?_⟩
      rw [failed] at got
      cases got
    | ok events =>
      have found := congrArg Prod.fst polled
      have moved := congrArg Prod.snd polled
      dsimp only at found moved
      obtain ⟨m, raised, -, -⟩ := q.examine_moves_up events
      refine ⟨by rw [moved, raised, isTarget_seenUpTo], fun e got => ?_⟩
      rw [found] at got
      exact examine_found got

theorem waitFinished_finished {e : Event} (ok : (Id.run ((p.waitFinished s).run c)).1 = .ok e) :
    e.status = .finished ∧ p.isTarget e = true := by
  -- the targets stay the poller's own along the run, so every event a check finds is one of them
  have step : ∀ now (qc : EventPoller × Client), qc.1.isTarget = p.isTarget →
      (Wait.outcome check now qc).2.1.isTarget = p.isTarget ∧
        ∀ v, (Wait.outcome check now qc).1 = .ok v →
          ∀ e, v = some e → e.status = .finished ∧ p.isTarget e = true := by
    rintro now ⟨q, c⟩ same
    obtain ⟨kept, found⟩ := check_keeps_targets now q c
    refine ⟨kept.trans same, ?_⟩
    rintro v got e rfl
    exact same ▸ found e got
  rw [waitFinished_run, run_check_eq] at ok
  generalize ran : Id.run ((Wait.run p.describe s c.clock check Option.isSome (s.timeout + 2)).run
    (p, c)) = out at ok
  obtain ⟨⟨r, progress⟩, qc⟩ := out
  cases r with
  | error => cases ok
  | ok v =>
    cases v with
    | none => cases ok
    | some e' =>
      cases ok
      exact (Wait.run_accepts (fun qc => qc.1.isTarget = p.isTarget)
        (fun v _ => ∀ e, v = some e → e.status = .finished ∧ p.isTarget e = true) step rfl ran).2 _ rfl

theorem waitFinished_observed (paced : 0 < s.interval) :
    let w := Wait.observedWait check p.describe s Option.isSome c.clock (p, c) (s.timeout + 2)
    ((Id.run ((p.waitFinished s).run c)).1.map some, (Id.run ((p.waitFinished s).run c)).2.clock) =
      ((w.cancelOr w.quietEnd w.quietYields).1, (w.cancelOr w.quietEnd w.quietYields).2 + c.clock) := by
  intro w
  have ends : Wait.Ends p.describe s check Option.isSome
      (Id.run ((Wait.run p.describe s c.clock check Option.isSome (s.timeout + 2)).run (p, c))).1.1 :=
    Wait.run_ends _ _ _
  rw [waitFinished_run, Client.afterWait_clock, run_check_eq,
    Except.map_some_bind (fun _ => rfl) fun v ok => ends.accepted ok]
  exact Wait.run_ends_as_observed paced (by omega)

end EventPoller

namespace Client

variable {α : Type} {what : String} {s : Wait.Schedule} {fetch : Call (Except ClientError α)}
  {accept : α → Bool} {c : Client}

theorem waitFor_ok {v : α} (ok : (Id.run ((Client.waitFor what s fetch accept).run c)).1 = .ok v) :
    accept v = true :=
  (waitFor_ends what s fetch accept c).accepted ok

theorem waitFor_observed (paced : 0 < s.interval) :
    let w := Wait.observedWait fetch.probe what s accept c.clock c (s.timeout + 2)
    ((Id.run ((Client.waitFor what s fetch accept).run c)).1,
      (Id.run ((Client.waitFor what s fetch accept).run c)).2.clock) =
      ((w.cancelOr w.quietEnd w.quietYields).1, (w.cancelOr w.quietEnd w.quietYields).2 + c.clock) := by
  intro w
  rw [waitFor_run]
  exact Wait.run_ends_as_observed paced (by omega)

theorem waitDisk_listed (l d : Nat) (st : DiskStatus) (s : Wait.Schedule) (c : Client) :
    (Id.run ((waitDisk l d st s).run c)).1.map some = (Id.run ((waitDiskListed l d st s).run c)).1 := by
  refine Except.map_some_bind (fun _ => rfl) fun v listed => ?_
  have accepted := waitFor_ok listed
  cases v with
  | none => cases accepted
  | some x => rfl

theorem findDisk_id {l d now : Nat} {c₀ : Client} {v : Option Disk} {y : Disk}
    (got : (Id.run ((findDisk l d).run.run { c₀ with clock := now })).1 = .ok v) (found : v = some y) :
    y.id = d := by
  simp only [findDisk, Call.run_bind, Call.run_pure, StateT.run_bind, StateT.run_pure, Id.run_bind,
    Id.run_pure] at got
  generalize (Id.run ((listInstanceDisks l {}).run.run _)).1 = listed at got
  cases listed with
  | error => cases got
  | ok ds =>
    simp only [Except.map, Except.ok.injEq] at got
    subst found
    simpa using List.find?_some got

theorem waitDisk_found {l d : Nat} {st : DiskStatus} {x : Disk}
    (ok : (Id.run ((waitDisk l d st s).run c)).1 = .ok x) : x.id = d ∧ x.status = st := by
  have listed := waitDisk_listed l d st s c
  rw [ok] at listed
  generalize ran : Id.run ((waitDiskListed l d st s).run c) = out at listed
  obtain ⟨r, c'⟩ := out
  subst listed
  obtain ⟨accepted, -, -, listedId, -⟩ := Client.waitFor_accepts (fun _ => True)
    (fun v _ => ∀ y, v = some y → y.id = d)
    (fun _ _ _ => ⟨trivial, fun _ got _ found => findDisk_id got found⟩) trivial ran
  exact ⟨listedId x rfl, by simpa using accepted⟩

/-- What the helpers of client `c` answer on schedule `s`. -/
structure WaitsAccept (c : Client) (s : Wait.Schedule) : Prop where
  instanceStatus : ∀ id st i, (Id.run ((waitInstance id st s).run c)).1 = .ok i → i.status = st
  diskListed : ∀ l d st,
    (Id.run ((waitDisk l d st s).run c)).1.map some = (Id.run ((waitDiskListed l d st s).run c)).1
  diskStatus : ∀ l d st x, (Id.run ((waitDisk l d st s).run c)).1 = .ok x → x.id = d ∧ x.status = st
  volumeStatus : ∀ id st v, (Id.run ((waitVolume id st s).run c)).1 = .ok v → v.status = st
  volumeAttachment : ∀ id l v,
    (Id.run ((waitVolumeAttachment id l s).run c)).1 = .ok v → v.linodeId = l
  snapshotStatus : ∀ l id st x, (Id.run ((waitSnapshot l id st s).run c)).1 = .ok x → x.status = st
  clusterStatus : ∀ id st x, (Id.run ((waitCluster id st s).run c)).1 = .ok x → x.status = st
  poolReady : ∀ cl id x, (Id.run ((waitPoolReady cl id s).run c)).1 = .ok x → x.isReady = true
  databaseStatus : ∀ engine id st x,
    (Id.run ((waitDatabase engine id st s).run c)).1 = .ok x → x.status = st
  eventFinished : ∀ (p : EventPoller) e, (Id.run ((p.waitFinished s).run c)).1 = .ok e →
    e.status = .finished ∧ p.isTarget e = true

theorem waits_accept (c : Client) (s : Wait.Schedule) : c.WaitsAccept s where
  instanceStatus _ _ _ ok := by simpa using waitFor_ok ok
  diskListed l d st := waitDisk_listed l d st s c
  diskStatus _ _ _ _ ok := waitDisk_found ok
  volumeStatus _ _ _ ok := by simpa using waitFor_ok ok
  volumeAttachment _ _ _ ok := by simpa using waitFor_ok ok
  snapshotStatus _ _ _ _ ok := by simpa using waitFor_ok ok
  clusterStatus _ _ _ ok := by simpa using waitFor_ok ok
  poolReady _ _ _ ok := waitFor_ok ok
  databaseStatus _ _ _ _ ok := by simpa using waitFor_ok ok
  eventFinished _ _ ok := EventPoller.waitFinished_finished ok

/-- How the waits of client `c` on schedule `s` end. -/
structure WaitsAsScripted (c : Client) (s : Wait.Schedule) : Prop where
  scripted : ∀ {α : Type} (w : Wait.ScriptedWait α), w.schedule = s →
    (w.replay.1, w.replay.2.now) = w.cancelOr w.quietEnd w.quietYields
  waitFor : ∀ {α : Type} (what : String) (fetch : Call (Except ClientError α)) (accept : α → Bool),
    let w := Wait.observedWait fetch.probe what s accept c.clock c (s.timeout + 2)
    ((Id.run ((Client.waitFor what s fetch accept).run c)).1,
      (Id.run ((Client.waitFor what s fetch accept).run c)).2.clock) =
      ((w.cancelOr w.quietEnd w.quietYields).1, (w.cancelOr w.quietEnd w.quietYields).2 + c.clock)
  waitFinished : ∀ p : EventPoller,
    let w := Wait.observedWait EventPoller.check p.describe s Option.isSome c.clock (p, c)
      (s.timeout + 2)
    ((Id.run ((p.waitFinished s).run c)).1.map some, (Id.run ((p.waitFinished s).run c)).2.clock) =
      ((w.cancelOr w.quietEnd w.quietYields).1, (w.cancelOr w.quietEnd w.quietYields).2 + c.clock)
  accepts : c.WaitsAccept s

end Client

end CloudApi
