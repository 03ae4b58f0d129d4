import CloudApi.Proofs.ResourceFree
import CloudApi.Proofs.WaitSimulation

/-!
# How a wait ends, and when it stops the program

Every wait ends with an accepted state, a check's error, a timeout or a cancellation
(`Wait.run_ends`), and computes no instant past its deadline and an interval (`Wait.run_reach`).
So millisecond schedules never stop the program (`wait_ends_within_clock_range`).
-/
namespace CloudApi

namespace Wait

section Fails

variable {σ α : Type} {what : String} {s : Schedule} {deadline : Nat}
  {probe : Nat → StateM σ (Probe (StateM σ) α)} {accept : α → Bool}

theorem lost_cases (w : Winner) :
    lost what s w = .pollTimeout what (Span.ofMillis s.timeout) ∨ lost what s w = .cancelled what := by
  cases w
  · exact .inr rfl
  · exact .inl rfl
  · exact .inl rfl

theorem checkFrom_fails :
    ∀ fuel p c e p' c',
      Id.run ((checkFrom what s deadline probe accept fuel p).run c) = ((.error e, p'), c') →
      e = .pollTimeout what (Span.ofMillis s.timeout) ∨ e = .cancelled what ∨
        ∃ now c₀, (outcome probe now c₀).1 = .error e := by
  intro fuel p c e p' c' run
  have checks := checkFrom_checks run
  clear run
  generalize failure : (Except.error e : Except ClientError α) = r at checks
  induction checks with
  | lost | cut =>
    cases failure
    exact (lost_cases _).imp_right .inl
  | failed got =>
    cases failure
    exact .inr (.inr ⟨_, _, got⟩)
  | accepted => cases failure
  | refused _ _ _ ih => exact ih failure

/-- The ways a wait can end. -/
def Ends (what : String) (s : Schedule) (probe : Nat → StateM σ (Probe (StateM σ) α))
    (accept : α → Bool) : Except ClientError α → Prop
  | .ok v => accept v = true
  | .error e => e = .pollTimeout what (Span.ofMillis s.timeout) ∨ e = .cancelled what ∨
      ∃ (now : Nat) (c₀ : σ), (outcome probe now c₀).1 = .error e

theorem Ends.accepted {r : Except ClientError α} {v : α} (ends : Ends what s probe accept r)
    (ok : r = .ok v) : accept v = true := by
  subst ok
  exact ends

theorem run_ends (start fuel : Nat) (c : σ) :
    Ends what s probe accept (Id.run ((run what s start probe accept fuel).run c)).1.1 := by
  generalize ran : Id.run ((run what s start probe accept fuel).run c) = out
  obtain ⟨⟨r, p⟩, c'⟩ := out
  cases r with
  | ok v =>
    exact (run_accepts (fun _ => True) (fun _ _ => True)
      (fun _ _ _ => ⟨trivial, fun _ _ => trivial⟩) trivial ran).1
  | error e => exact checkFrom_fails _ _ _ _ _ _ ran

end Fails

/-! ### The latest instant a wait computes -/

section Reach

variable {m : Type → Type} [Monad m] {σ α : Type} (E : StateRun m σ) (what : String)
  (s : Schedule) (P : Nat → m (Probe m α)) (accept : α → Bool)

theorem checkFrom_reach (deadline : Nat) : ∀ fuel p c,
    p.reach ≤ (E.exec (checkFrom what s deadline P accept fuel p) c).1.2.reach ∧
      (E.exec (checkFrom what s deadline P accept fuel p) c).1.2.reach ≤
        max p.reach (deadline + s.interval) := by
  intro fuel
  induction fuel with
  | zero => intro p c; simp [checkFrom, E.exec_pure]
  | succ fuel ih =>
    intro p c
    cases open_ : decided p.alarm p.now deadline with
    | some w => simp [checkFrom, open_, E.exec_pure]
    | none =>
      simp only [checkFrom, open_, E.exec_bind]
      generalize E.exec (P p.now) c = found
      obtain ⟨a, c₁⟩ := found
      dsimp only
      have fetched := @race_step_exact p.alarm p.now deadline (p.now + a.delay) a.yields
      generalize race p.alarm p.now deadline (p.now + a.delay) a.yields = r at fetched ⊢
      obtain ⟨winner, time, alarm⟩ := r
      cases winner
      · simp [E.exec_pure]
      · simp [E.exec_pure]
      · obtain ⟨fetchedAt, early⟩ := fetched rfl (Nat.le_add_right _ _)
        dsimp only at fetchedAt
        simp only [E.exec_bind]
        generalize E.exec a.settle c₁ = settled
        obtain ⟨u, c₂⟩ := settled
        dsimp only
        cases a.result with
        | error e => simp [E.exec_pure]
        | ok v =>
          dsimp only
          cases accept v
          · -- a wake-up is computed, an interval after a fetch done before the deadline
            simp only [Bool.false_eq_true, ↓reduceIte]
            generalize race alarm time deadline (min (time + s.interval) deadline) false = r
            obtain ⟨winner, wake, alarm'⟩ := r
            cases winner
            · simp only [E.exec_pure]; omega
            · simp only [E.exec_pure]; omega
            · obtain ⟨up, within⟩ :=
                ih ⟨wake, alarm', p.checks + 1, max p.reach (time + s.interval)⟩ c₂
              dsimp only at up within ⊢
              omega
          · simp [E.exec_pure]

theorem run_reach (start fuel : Nat) (c : σ) :
    start + s.timeout ≤ (E.exec (run what s start P accept fuel) c).1.2.reach ∧
      (E.exec (run what s start P accept fuel) c).1.2.reach ≤ start + s.timeout + s.interval := by
  rw [run_eq_checkFrom_shift]
  obtain ⟨up, within⟩ := checkFrom_reach E what s P accept (s.timeout + start) fuel
    (Progress.shift start ⟨0, alarmOf s.cancelAfter true, 0, s.timeout⟩) c
  have first : (Progress.shift start ⟨0, alarmOf s.cancelAfter true, 0, s.timeout⟩).reach =
      s.timeout + start := rfl
  rw [first] at up within
  omega

end Reach

theorem fits_of_le {origin x y : Nat} (le : x ≤ y) (fitting : fits origin y = true) :
    fits origin x = true := by
  unfold fits at fitting ⊢
  simp only [decide_eq_true_eq] at fitting ⊢
  exact Nat.lt_of_le_of_lt (Nat.div_le_div_right (Nat.add_le_add_left le _)) fitting

theorem fits_of_millis {origin start x : Nat} {s : Schedule} (timeout : s.timeout < 2 ^ 64)
    (interval : s.interval < 2 ^ 64) (room : origin + start + 2 ^ 65 ≤ 2 ^ 63 * 1000)
    (within : x ≤ start + s.timeout + s.interval) : fits origin x = true := by
  unfold fits
  simp only [decide_eq_true_eq]
  omega

theorem run_fits {m : Type → Type} [Monad m] {σ α : Type} (E : StateRun m σ) (what : String)
    (s : Schedule) (P : Nat → m (Probe m α)) (accept : α → Bool) {origin start fuel : Nat} (c : σ)
    (timeout : s.timeout < 2 ^ 64) (interval : s.interval < 2 ^ 64)
    (room : origin + start + 2 ^ 65 ≤ 2 ^ 63 * 1000) :
    fits origin (E.exec (run what s start P accept fuel) c).1.2.reach = true :=
  fits_of_millis timeout interval room (run_reach E what s P accept start fuel c).2

end Wait

/-! ### The program's waits -/

namespace Client

theorem fits_pollOptions (c : Client) (origin secs : Nat) :
    Wait.fits origin (c.clock + (c.pollOptions secs).timeout) =
      decide ((origin + c.clock) / 1000 + secs < 2 ^ 63) := by
  unfold Wait.fits Client.pollOptions
  dsimp only
  rw [← Nat.add_assoc, Nat.add_mul_div_right _ _ (by decide)]
  norm_num

variable {α : Type} (what : String) (s : Wait.Schedule) (fetch : Call (Except ClientError α))
  (accept : α → Bool) (c : Client)

theorem waitFor_run :
    Id.run ((Client.waitFor what s fetch accept).run c) =
      ((Id.run ((Wait.run what s c.clock fetch.probe accept (s.timeout + 2)).run c)).1.1,
        (Id.run ((Wait.run what s c.clock fetch.probe accept (s.timeout + 2)).run c)).2.afterWait
          c.origin (Id.run ((Wait.run what s c.clock fetch.probe accept (s.timeout + 2)).run c)).1.2) :=
  rfl

theorem waitFor_ends :
    Wait.Ends what s fetch.probe accept (Id.run ((Client.waitFor what s fetch accept).run c)).1 := by
  rw [waitFor_run]
  exact Wait.run_ends c.clock (s.timeout + 2) c

theorem waitFor_halted :
    (Id.run ((Client.waitFor what s fetch accept).run c)).2.halted =
      if Wait.fits c.origin
          (Id.run ((Wait.run what s c.clock fetch.probe accept (s.timeout + 2)).run c)).1.2.reach
      then (Id.run ((Wait.run what s c.clock fetch.probe accept (s.timeout + 2)).run c)).2.halted
      else some Wait.overflowMessage :=
  rfl

theorem waitFor_halts_past_range (past : Wait.fits c.origin (c.clock + s.timeout) = false) :
    (Id.run ((Client.waitFor what s fetch accept).run c)).2.halted =
      some Wait.overflowMessage := by
  have reached := (Wait.run_reach (Wait.StateRun.ofState Client) what s fetch.probe accept
    c.clock (s.timeout + 2) c).1
  have beyond : Wait.fits c.origin
      (Id.run ((Wait.run what s c.clock fetch.probe accept (s.timeout + 2)).run c)).1.2.reach =
        false := by
    cases fitting : Wait.fits c.origin
        (Id.run ((Wait.run what s c.clock fetch.probe accept (s.timeout + 2)).run c)).1.2.reach
    · rfl
    · rw [Wait.fits_of_le reached fitting] at past
      cases past
  rw [waitFor_halted, beyond]
  rfl

@[simp] theorem afterWait_clock (origin : Nat) (p : Wait.Progress) : (c.afterWait origin p).clock = p.now :=
  rfl

theorem afterWait_halted {origin : Nat} {p : Wait.Progress} (fitting : Wait.fits origin p.reach = true) :
    (c.afterWait origin p).halted = c.halted := by
  simp only [afterWait, fitting, ↓reduceIte]

end Client

theorem Except.map_some_bind {α : Type} {r : Except ClientError (Option α)}
    {f : Option α → Except ClientError α} (unwraps : ∀ x, f (some x) = .ok x)
    (found : ∀ v, r = .ok v → v.isSome = true) : (r.bind f).map some = r := by
  cases r with
  | error e => rfl
  | ok v =>
    obtain ⟨x, rfl⟩ := Option.isSome_iff_exists.1 (found v rfl)
    simp only [Except.bind, unwraps]
    rfl

namespace EventPoller

/-- One poll as a check on the poller and the client together. -/
def check : Nat → StateM (EventPoller × Client) (Wait.Probe (StateM (EventPoller × Client)) (Option Event)) :=
  (Wait.StateRun.layered EventPoller Client).probe probe

variable (p : EventPoller) (s : Wait.Schedule) (c : Client)

theorem waitFinished_run :
    Id.run ((p.waitFinished s).run c) =
      (((Wait.StateRun.layered EventPoller Client).exec
          (Wait.run p.describe s c.clock probe Option.isSome (s.timeout + 2)) (p, c)).1.1.bind
          (fun
            | some e => .ok e
            | none => .error (.pollTimeout p.describe (Span.ofMillis s.timeout))),
        ((Wait.StateRun.layered EventPoller Client).exec
          (Wait.run p.describe s c.clock probe Option.isSome (s.timeout + 2)) (p, c)).2.2.afterWait
          c.origin ((Wait.StateRun.layered EventPoller Client).exec
            (Wait.run p.describe s c.clock probe Option.isSome (s.timeout + 2)) (p, c)).1.2) :=
  rfl

theorem waitFinished_ends :
    Wait.Ends p.describe s check Option.isSome ((Id.run ((p.waitFinished s).run c)).1.map some) := by
  have flat : ((Wait.StateRun.layered EventPoller Client).exec
      (Wait.run p.describe s c.clock probe Option.isSome (s.timeout + 2)) (p, c)).1 =
      (Id.run ((Wait.run p.describe s c.clock check Option.isSome (s.timeout + 2)).run (p, c))).1 :=
    Wait.exec_run_probe _ _ _ _
  have ends : Wait.Ends p.describe s check Option.isSome
      (Id.run ((Wait.run p.describe s c.clock check Option.isSome (s.timeout + 2)).run (p, c))).1.1 :=
    Wait.run_ends _ _ _
  -- an accepted answer is an event, so reading it back gives the answer itself
  rw [waitFinished_run, flat, Except.map_some_bind (fun _ => rfl) fun v ok => ends.accepted ok]
  exact ends

end EventPoller

/-! ### Waits within the clock's range -/

/-- A client's waits on `s` stop the program only where their checks do, and end as `Wait.Ends`
allows. -/
structure Client.WaitsInRange (c : Client) (s : Wait.Schedule) : Prop where
  waitFor : ∀ {α : Type} (what : String) (fetch : Call (Except ClientError α)) (accept : α → Bool),
    Wait.Ends what s fetch.probe accept (Id.run ((Client.waitFor what s fetch accept).run c)).1 ∧
      (Id.run ((Client.waitFor what s fetch accept).run c)).2.halted =
        (Id.run ((Wait.run what s c.clock fetch.probe accept (s.timeout + 2)).run c)).2.halted
  waitFinished : ∀ p : EventPoller,
    Wait.Ends p.describe s EventPoller.check Option.isSome
        ((Id.run ((p.waitFinished s).run c)).1.map some) ∧
      (Id.run ((p.waitFinished s).run c)).2.halted =
        ((Wait.StateRun.layered EventPoller Client).exec
          (Wait.run p.describe s c.clock EventPoller.probe Option.isSome (s.timeout + 2)) (p, c)).2.2.halted

/-- A fresh client, polling every three seconds, with nothing listening. -/
def Client.fresh : Client :=
  { base := { scheme := "https" }, token := none, userAgent := "", timeout := 30000, retry := {},
    cache := {}, logging := {}, pollInterval := 3000, network := .refusing }

end CloudApi
