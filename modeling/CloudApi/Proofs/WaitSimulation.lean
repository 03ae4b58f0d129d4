import CloudApi.Proofs.CheckCount

/-!
# A wait on any checks is a wait on a script

Two waits whose checks find the same run in lockstep (`checkFrom_lockstep`), so a wait begun at
`t` is the wait at 0 on the script of what its own checks find (`run_observed`).
-/

namespace CloudApi.Wait

/-! ### A wait moved in time -/

/-- The canceller, `t` milliseconds later. -/
def Alarm.shift (t : Nat) : Alarm → Alarm
  | .silent => .silent
  | .unarmed i => .unarmed (i + t)
  | .armed i => .armed (i + t)
  | .rung => .rung

/-- The end of a race, `t` milliseconds later. -/
def Race.shift (t : Nat) (r : Race) : Race := { r with time := r.time + t, alarm := r.alarm.shift t }

/-- Where a wait stands, `t` milliseconds later. -/
def Progress.shift (t : Nat) (p : Progress) : Progress :=
  { p with now := p.now + t, alarm := p.alarm.shift t, reach := p.reach + t }

@[simp] theorem Alarm.shift_rung (t : Nat) : Alarm.rung.shift t = .rung := rfl

@[simp] theorem Progress.shift_zero (p : Progress) : p.shift 0 = p := by
  obtain ⟨now, alarm, checks, reach⟩ := p
  cases alarm <;> rfl

theorem Alarm.shift_beq_rung (a : Alarm) (t : Nat) : (a.shift t == .rung) = (a == .rung) := by
  cases a <;> rfl

theorem add_beq_add (a b t : Nat) : (a + t == b + t) = (a == b) := by
  cases same : a == b
  · simpa using same
  · simpa using same

theorem decided_shift (a : Alarm) (now deadline t : Nat) :
    decided (a.shift t) (now + t) (deadline + t) = decided a now deadline := by
  simp [decided, Alarm.shift_beq_rung]

theorem race_shift (a : Alarm) (now deadline finish t : Nat) (yields : Bool) :
    race (a.shift t) (now + t) (deadline + t) (finish + t) yields =
      (race a now deadline finish yields).shift t := by
  unfold race
  rw [decided_shift]
  cases decided a now deadline with
  | some w => cases w <;> simp [Race.shift] <;> split <;> rfl
  | none =>
    dsimp only
    have ready : (decide (finish + t ≤ now + t) && !yields) =
        (decide (finish ≤ now) && !yields) := by
      simp
    rw [ready]
    split
    · rfl
    · -- every instant the race compares moves by `t`, so every comparison comes out the same
      cases a <;>
        simp only [apply_ite (Race.shift t), Alarm.shift, Nat.add_min_add_right, add_beq_add,
          Option.some_beq_some] <;> rfl

theorem race_step_exact {alarm : Alarm} {now deadline finish : Nat} {yields : Bool}
    (won : (race alarm now deadline finish yields).winner = .step) (late : now ≤ finish) :
    (race alarm now deadline finish yields).time = finish ∧ finish < deadline := by
  obtain ⟨early, reached⟩ := race_step won
  rcases reached with ⟨_, _⟩ | _ <;> omega

/-! ### Computations read as runs on states -/

/-- A monad read as runs on states, respecting `pure` and `bind`. -/
structure StateRun (m : Type → Type) [Monad m] (σ : Type) where
  exec : {β : Type} → m β → σ → β × σ
  exec_pure : ∀ {β : Type} (b : β) (c : σ), exec (pure b) c = (b, c)
  exec_bind : ∀ {β γ : Type} (x : m β) (f : β → m γ) (c : σ),
    exec (x >>= f) c = exec (f (exec x c).1) (exec x c).2

/-- A state monad, run on its own states. -/
def StateRun.ofState (σ : Type) : StateRun (StateM σ) σ where
  exec x c := Id.run (x.run c)
  exec_pure _ _ := rfl
  exec_bind _ _ _ := rfl

/-- A state over a state monad, run on pairs of the two states. -/
def StateRun.layered (ρ σ : Type) : StateRun (StateT ρ (StateM σ)) (ρ × σ) where
  exec x rc := ((Id.run ((x.run rc.1).run rc.2)).1.1,
    ((Id.run ((x.run rc.1).run rc.2)).1.2, (Id.run ((x.run rc.1).run rc.2)).2))
  exec_pure _ _ := rfl
  exec_bind _ _ _ := rfl

/-- A check on `m`, read as a check on states. -/
def StateRun.probe {m : Type → Type} [Monad m] {σ α : Type} (E : StateRun m σ)
    (P : Nat → m (Probe m α)) (now : Nat) : StateM σ (Probe (StateM σ) α) :=
  modifyGet fun c =>
    ({ delay := (E.exec (P now) c).1.delay, result := (E.exec (P now) c).1.result,
       yields := (E.exec (P now) c).1.yields,
       settle := modifyGet fun c' => E.exec (E.exec (P now) c).1.settle c' },
      (E.exec (P now) c).2)

/-! ### Two waits in lockstep -/

section Lockstep

variable {m₁ m₂ : Type → Type} [Monad m₁] [Monad m₂] {σ₁ σ₂ α : Type}

/-- Checks of two waits in lockstep, the first `t` later, find the same and settle to related
states. -/
structure Lockstep (E₁ : StateRun m₁ σ₁) (E₂ : StateRun m₂ σ₂) (P₁ : Nat → m₁ (Probe m₁ α))
    (P₂ : Nat → m₂ (Probe m₂ α)) (interval t : Nat) (R : Nat → σ₁ → σ₂ → Nat → Prop) :
    Prop where
  delay : ∀ {f c₁ c₂ now}, R (f + 1) c₁ c₂ now →
    (E₁.exec (P₁ (now + t)) c₁).1.delay = (E₂.exec (P₂ now) c₂).1.delay
  result : ∀ {f c₁ c₂ now}, R (f + 1) c₁ c₂ now →
    (E₁.exec (P₁ (now + t)) c₁).1.result = (E₂.exec (P₂ now) c₂).1.result
  yields : ∀ {f c₁ c₂ now}, R (f + 1) c₁ c₂ now →
    (E₁.exec (P₁ (now + t)) c₁).1.yields = (E₂.exec (P₂ now) c₂).1.yields
  settled : ∀ {f c₁ c₂ now}, R (f + 1) c₁ c₂ now →
    R f (E₁.exec (E₁.exec (P₁ (now + t)) c₁).1.settle (E₁.exec (P₁ (now + t)) c₁).2).2
      (E₂.exec (E₂.exec (P₂ now) c₂).1.settle (E₂.exec (P₂ now) c₂).2).2
      (now + (E₂.exec (P₂ now) c₂).1.delay + interval)

variable {E₁ : StateRun m₁ σ₁} {E₂ : StateRun m₂ σ₂} {P₁ : Nat → m₁ (Probe m₁ α)}
  {P₂ : Nat → m₂ (Probe m₂ α)} {s : Schedule} {t : Nat} {R : Nat → σ₁ → σ₂ → Nat → Prop}

theorem checkFrom_lockstep (lock : Lockstep E₁ E₂ P₁ P₂ s.interval t R) (what : String)
    (deadline : Nat) (accept : α → Bool) :
    ∀ fuel p c₁ c₂, R fuel c₁ c₂ p.now →
      (E₁.exec (checkFrom what s (deadline + t) P₁ accept fuel (p.shift t)) c₁).1 =
        ((E₂.exec (checkFrom what s deadline P₂ accept fuel p) c₂).1.1,
          (E₂.exec (checkFrom what s deadline P₂ accept fuel p) c₂).1.2.shift t) := by
  intro fuel
  induction fuel with
  | zero => intro p c₁ c₂ _; simp [checkFrom, E₁.exec_pure, E₂.exec_pure]
  | succ fuel ih =>
    intro p c₁ c₂ related
    cases open_ : decided p.alarm p.now deadline with
    | some w =>
      have open₁ : decided (p.shift t).alarm (p.shift t).now (deadline + t) = some w := by
        rw [Progress.shift, decided_shift, open_]
      simp only [checkFrom, open_, open₁, E₁.exec_pure, E₂.exec_pure]
      cases w <;> rfl
    | none =>
      have open₁ : decided (p.alarm.shift t) (p.now + t) (deadline + t) = none := by
        rw [decided_shift, open_]
      have sameDelay := lock.delay related
      have sameYields := lock.yields related
      have sameResult := lock.result related
      have next := lock.settled related
      simp only [checkFrom, open_, open₁, E₁.exec_bind, E₂.exec_bind, Progress.shift]
      generalize E₁.exec (P₁ (p.now + t)) c₁ = found₁ at sameDelay sameYields sameResult next ⊢
      generalize E₂.exec (P₂ p.now) c₂ = found₂ at sameDelay sameYields sameResult next ⊢
      obtain ⟨a₁, c₁'⟩ := found₁
      obtain ⟨a₂, c₂'⟩ := found₂
      dsimp only at sameDelay sameYields sameResult next ⊢
      -- the first wait's fetch races as the second's does, `t` later
      rw [sameYields, show p.now + t + a₁.delay = p.now + a₂.delay + t by omega, race_shift]
      have fetched := @race_step_exact p.alarm p.now deadline (p.now + a₂.delay) a₂.yields
      generalize race p.alarm p.now deadline (p.now + a₂.delay) a₂.yields = r at fetched ⊢
      obtain ⟨winner, time, alarm⟩ := r
      cases winner
      · simp [E₁.exec_pure, E₂.exec_pure, Race.shift]
      · simp [E₁.exec_pure, E₂.exec_pure, Race.shift]
      · obtain ⟨fetchedAt, _⟩ := fetched rfl (Nat.le_add_right _ _)
        dsimp only at fetchedAt
        simp only [Race.shift, E₁.exec_bind, E₂.exec_bind]
        generalize E₁.exec a₁.settle c₁' = settled₁ at next ⊢
        generalize E₂.exec a₂.settle c₂' = settled₂ at next ⊢
        obtain ⟨u₁, c₁''⟩ := settled₁
        obtain ⟨u₂, c₂''⟩ := settled₂
        dsimp only at next ⊢
        rw [sameResult]
        cases a₂.result with
        | error e => simp [E₁.exec_pure, E₂.exec_pure, Alarm.shift]
        | ok v =>
          dsimp only
          cases accepted : accept v
          · -- the pause races as the second's does too, and ends when the next check starts
            simp only [Bool.false_eq_true, ↓reduceIte]
            rw [show time + t + s.interval = time + s.interval + t by omega,
              Nat.add_min_add_right, race_shift, Nat.add_max_add_right]
            have paused :=
              @race_step_exact alarm time deadline (min (time + s.interval) deadline) false
            generalize race alarm time deadline (min (time + s.interval) deadline) false = r
              at paused ⊢
            obtain ⟨winner, wake, alarm'⟩ := r
            cases winner
            · simp [E₁.exec_pure, E₂.exec_pure, Race.shift]
            · simp [E₁.exec_pure, E₂.exec_pure, Race.shift]
            · obtain ⟨wokeAt, _⟩ := paused rfl (by omega)
              dsimp only at wokeAt
              have woke : wake = p.now + a₂.delay + s.interval := by omega
              have step := ih ⟨wake, alarm', p.checks + 1, max p.reach (time + s.interval)⟩
                c₁'' c₂'' (by rw [woke]; exact next)
              simp only [Race.shift]
              exact step
          · simp [E₁.exec_pure, E₂.exec_pure, Alarm.shift]

end Lockstep

/-! ### Any wait is a wait on states -/

section Flat

variable {m : Type → Type} [Monad m] {σ α : Type} (E : StateRun m σ) {what : String}
  {s : Schedule} {deadline : Nat} {P : Nat → m (Probe m α)} {accept : α → Bool}

theorem exec_checkFrom_probe (fuel : Nat) (p : Progress) (c : σ) :
    (E.exec (checkFrom what s deadline P accept fuel p) c).1 =
      (Id.run ((checkFrom what s deadline (E.probe P) accept fuel p).run c)).1 := by
  -- the two waits go in lockstep at no distance, on the same states
  have lock : Lockstep E (StateRun.ofState σ) P (E.probe P) s.interval 0
      (fun _ c₁ c₂ _ => c₁ = c₂) :=
    { delay := by rintro f c₁ c₂ now rfl; rfl
      result := by rintro f c₁ c₂ now rfl; rfl
      yields := by rintro f c₁ c₂ now rfl; rfl
      settled := by rintro f c₁ c₂ now rfl; rfl }
  have ran := checkFrom_lockstep lock what deadline accept fuel p c c rfl
  rw [Progress.shift_zero, Nat.add_zero] at ran
  rw [ran, Progress.shift_zero]
  rfl

theorem exec_run_probe (start fuel : Nat) (c : σ) :
    (E.exec (run what s start P accept fuel) c).1 =
      (Id.run ((run what s start (E.probe P) accept fuel).run c)).1 :=
  exec_checkFrom_probe E fuel _ c

end Flat

/-! ### The script a wait observes -/

theorem run_eq_checkFrom_shift {m : Type → Type} [Monad m] {α : Type} (what : String)
    (s : Schedule) (t : Nat) (P : Nat → m (Probe m α)) (accept : α → Bool) (fuel : Nat) :
    run what s t P accept fuel =
      checkFrom what s (s.timeout + t) P accept fuel
        (Progress.shift t ⟨0, alarmOf s.cancelAfter true, 0, s.timeout⟩) := by
  cases after : s.cancelAfter <;>
    simp [run, after, Progress.shift, alarmOf, Alarm.shift, Nat.add_comm]

section Observed

variable {σ α : Type} (P : Nat → StateM σ (Probe (StateM σ) α)) (interval : Nat)

/-- Where round `k` of a wait starts when no round ends it. -/
def roundStart (t : Nat) (c : σ) : Nat → Nat × σ
  | 0 => (t, c)
  | k + 1 =>
    let found := Id.run ((P (roundStart t c k).1).run (roundStart t c k).2)
    ((roundStart t c k).1 + found.1.delay + interval, (Id.run (found.1.settle.run found.2)).2)

/-- What the check of round `k` finds, as a scripted state. -/
def roundState (t : Nat) (c : σ) (k : Nat) : Scripted α :=
  let found := (Id.run ((P (roundStart P interval t c k).1).run (roundStart P interval t c k).2)).1
  { delay := found.delay, result := found.result, yields := found.yields }

/-- The wait on what the first `n` rounds of a wait begun at `t` from `c` find. -/
def observedWait (what : String) (s : Schedule) (accept : α → Bool) (t : Nat) (c : σ) (n : Nat) :
    ScriptedWait α :=
  { what, schedule := s, script := (List.range n).map (roundState P s.interval t c),
    fallback := roundState P s.interval t c n, accept }

variable {P} {what : String} {s : Schedule} {accept : α → Bool} {t : Nat} {c : σ} {n : Nat}

theorem observedWait_state {k : Nat} (within : k < n) :
    (observedWait P what s accept t c n).state k = roundState P s.interval t c k := by
  simp [ScriptedWait.state, Scripted.nth, observedWait, within]

theorem roundStart_succ (k : Nat) :
    roundStart P interval t c (k + 1) =
      let found := Id.run ((P (roundStart P interval t c k).1).run (roundStart P interval t c k).2)
      ((roundStart P interval t c k).1 + (roundState P interval t c k).delay + interval,
        (Id.run (found.1.settle.run found.2)).2) := rfl

theorem run_observed (fuel : Nat) :
    (Id.run ((run what s t P accept fuel).run c)).1 =
      (((observedWait P what s accept t c fuel).runWith fuel).1,
        ((observedWait P what s accept t c fuel).runWith fuel).2.shift t) := by
  let w := observedWait P what s accept t c fuel
  -- the rounds so far start where the wait on states has its check, `t` later
  let R : Nat → σ → Nat → Nat → Prop := fun f c₁ k now =>
    k + f ≤ fuel ∧ roundStart P s.interval t c k = (now + t, c₁)
  have lock : Lockstep (StateRun.ofState σ) (StateRun.ofState Nat) P w.probe s.interval t R := by
    have found : ∀ {f c₁ k now}, R (f + 1) c₁ k now →
        w.state k = roundState P s.interval t c k ∧
          (P (now + t)).run c₁ = (P (roundStart P s.interval t c k).1).run
            (roundStart P s.interval t c k).2 := by
      rintro f c₁ k now ⟨within, starts⟩
      exact ⟨observedWait_state (by omega), by rw [starts]⟩
    refine ⟨fun related => ?_, fun related => ?_, fun related => ?_,
      fun {f c₁ k now} related => ?_⟩
    · obtain ⟨state, probed⟩ := found related
      simp only [StateRun.ofState, ScriptedWait.probe_run, state, roundState, probed]
      rfl
    · obtain ⟨state, probed⟩ := found related
      simp only [StateRun.ofState, ScriptedWait.probe_run, state, roundState, probed]
      rfl
    · obtain ⟨state, probed⟩ := found related
      simp only [StateRun.ofState, ScriptedWait.probe_run, state, roundState, probed]
      rfl
    · obtain ⟨state, probed⟩ := found related
      obtain ⟨within, starts⟩ := related
      -- round `k + 1` starts an interval after round `k`'s fetch, from the state it settled to
      change R f (Id.run ((Id.run ((P (now + t)).run c₁)).1.settle.run
          (Id.run ((P (now + t)).run c₁)).2)).2 (k + 1)
        (now + (w.state k).delay + s.interval)
      refine ⟨by omega, ?_⟩
      rw [roundStart_succ, state, starts]
      simp only [Prod.mk.injEq, roundState, starts, and_true]
      omega
  have ran := checkFrom_lockstep lock what s.timeout accept fuel w.start c 0
    ⟨by omega, by simp [roundStart, ScriptedWait.start]⟩
  rw [run_eq_checkFrom_shift, ScriptedWait.runWith_eq]
  exact ran

theorem run_ends_as_observed (paced : 0 < s.interval) {fuel : Nat} (enough : s.timeout < fuel) :
    let w := observedWait P what s accept t c fuel
    ((Id.run ((run what s t P accept fuel).run c)).1.1,
      (Id.run ((run what s t P accept fuel).run c)).1.2.now) =
      ((w.cancelOr w.quietEnd w.quietYields).1, (w.cancelOr w.quietEnd w.quietYields).2 + t) := by
  intro w
  have ends := w.runWith_end paced enough
  rw [run_observed, ← ends]
  rfl

end Observed

end CloudApi.Wait
