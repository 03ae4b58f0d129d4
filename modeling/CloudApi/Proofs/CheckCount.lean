import CloudApi.Proofs.WaitTiming

/-!
# How many checks a wait makes

A wait that pauses ends by its deadline after at most `max 1 ⌈timeout / interval⌉` checks
(`paced_wait_ends_within_checks`). Without a pause, states fetched at once and never accepted
hold the clock still and the checks never end (`unpaced_rejection_never_ends`).
-/

namespace CloudApi.Wait

/-! ### What a race settles -/

theorem race_time_le (alarm : Alarm) (now deadline finish : Nat) (yields : Bool) :
    (race alarm now deadline finish yields).time ≤ max now deadline := by
  unfold race
  split
  · exact Nat.le_max_left _ _
  · split
    · exact Nat.le_max_left _ _
    · cases alarm <;> dsimp only <;> repeat' split
      all_goals dsimp only; omega

theorem decided_ne_step {alarm : Alarm} {now deadline : Nat} :
    decided alarm now deadline ≠ some .step := by
  unfold decided
  split
  · simp
  · split <;> simp

theorem early_of_decided {alarm : Alarm} {now deadline : Nat}
    (open_ : decided alarm now deadline = none) : now < deadline := by
  unfold decided at open_
  split at open_
  · cases open_
  · split at open_
    · cases open_
    · omega

theorem race_step {alarm : Alarm} {now deadline finish : Nat} {yields : Bool}
    (won : (race alarm now deadline finish yields).winner = .step) :
    (race alarm now deadline finish yields).time < deadline ∧
      ((finish ≤ now ∧ (race alarm now deadline finish yields).time = now) ∨
        (race alarm now deadline finish yields).time = finish) := by
  cases decidedAt : decided alarm now deadline with
  | some w =>
    unfold race at won
    rw [decidedAt] at won
    dsimp only at won
    subst won
    exact absurd decidedAt decided_ne_step
  | none =>
    have early := early_of_decided decidedAt
    unfold race at won ⊢
    rw [decidedAt] at won ⊢
    dsimp only at won ⊢
    by_cases ready : (decide (finish ≤ now) && !yields) = true
    · rw [if_pos ready]
      simp only [Bool.and_eq_true, decide_eq_true_eq] at ready
      exact ⟨early, .inl ⟨ready.1, rfl⟩⟩
    · -- the race waits for the first instant anyone is due; a step that wins is due then
      rw [if_neg ready] at won ⊢
      cases alarm <;> dsimp only at won ⊢
      all_goals
        split
        · rw [if_pos (by assumption)] at won
          cases won
        · split
          · rw [if_neg (by assumption), if_pos (by assumption)] at won
            cases won
          · rename_i notCancel notDeadline
            simp only [Option.none_beq_some, Option.some_beq_some, Bool.not_false, Bool.not_true,
              Bool.not_or, Bool.not_and, Bool.not_not, Bool.true_or, Bool.false_or, Bool.and_true,
              Bool.and_eq_true, Bool.false_eq_true, not_false_eq_true, beq_iff_eq,
              Bool.not_eq_eq_eq_not, beq_eq_false_iff_ne, ne_eq, Bool.or_eq_true,
              Decidable.not_and_iff_not_or_not, not_or, Bool.not_eq_true, Decidable.not_not]
              at notCancel notDeadline
            dsimp only
            exact ⟨by omega, .inr (by omega)⟩

theorem race_step_reaches {alarm : Alarm} {now deadline finish : Nat} {yields : Bool}
    (won : (race alarm now deadline finish yields).winner = .step) (late : now ≤ finish) :
    finish ≤ (race alarm now deadline finish yields).time ∧
      (race alarm now deadline finish yields).time < deadline := by
  obtain ⟨early, reached⟩ := race_step won
  refine ⟨?_, early⟩
  rcases reached with ⟨_, _⟩ | _ <;> omega

namespace ScriptedWait

variable {α : Type} (w : ScriptedWait α)

/-- Where a run of checks leaves the wait. -/
def progressOf (x : StateM Nat (Except ClientError α × Progress)) (k : Nat) : Progress :=
  (Id.run (x.run k)).1.2

/-- How many checks can begin from `now` on, an interval apart and before the deadline. -/
def checksLeft (s : Schedule) (now : Nat) : Nat :=
  max 1 ((s.timeout - now + s.interval - 1) / s.interval)

theorem checksLeft_step {s : Schedule} {now next : Nat} (paced : 0 < s.interval)
    (later : now + s.interval ≤ next) (early : next < s.timeout) :
    1 + checksLeft s next ≤ checksLeft s now := by
  unfold checksLeft
  have some : 1 ≤ (s.timeout - next + s.interval - 1) / s.interval :=
    (Nat.le_div_iff_mul_le paced).2 (by omega)
  have more : (s.timeout - next + s.interval - 1) / s.interval + 1 ≤
      (s.timeout - now + s.interval - 1) / s.interval := by
    rw [← Nat.add_div_right _ paced]
    exact Nat.div_le_div_right (by omega)
  omega

/-- The checks from a progress on number no more than `checksLeft` and end by the deadline. -/
def ChecksWithin (fuel : Nat) : Prop :=
  ∀ (p : Progress) (k : Nat),
    (progressOf (w.checksFrom fuel p) k).checks ≤ p.checks + checksLeft w.schedule p.now ∧
      (progressOf (w.checksFrom fuel p) k).now ≤ max p.now w.schedule.timeout

theorem pause_within (paced : 0 < w.schedule.interval) {fuel : Nat} (ih : w.ChecksWithin fuel)
    (q : Progress) (k : Nat) {before : Nat} (after : before ≤ q.now)
    (early : q.now < w.schedule.timeout) :
    (progressOf (w.pause fuel q) k).checks + 1 ≤ q.checks + checksLeft w.schedule before ∧
      (progressOf (w.pause fuel q) k).now ≤ w.schedule.timeout := by
  have one : 1 ≤ checksLeft w.schedule before := Nat.le_max_left _ _
  have wake : q.now ≤ min (q.now + w.schedule.interval) w.schedule.timeout := by omega
  have won := @race_step_reaches q.alarm q.now w.schedule.timeout
    (min (q.now + w.schedule.interval) w.schedule.timeout) false
  have ended := race_time_le q.alarm q.now w.schedule.timeout
    (min (q.now + w.schedule.interval) w.schedule.timeout) false
  unfold pause
  dsimp only
  generalize race q.alarm q.now w.schedule.timeout
    (min (q.now + w.schedule.interval) w.schedule.timeout) false = r at won ended ⊢
  obtain ⟨winner, next, alarm⟩ := r
  rw [Nat.max_eq_right (Nat.le_of_lt early)] at ended
  dsimp only at won ended
  cases winner
  · exact ⟨Nat.add_le_add_left one _, ended⟩
  · exact ⟨Nat.add_le_add_left one _, ended⟩
  · -- the pause ends an interval after `q`, before the deadline, and the checks go on from there
    obtain ⟨reached, pausedEarly⟩ := won rfl wake
    have fewer := checksLeft_step paced (show before + w.schedule.interval ≤ next by omega)
      pausedEarly
    obtain ⟨count, ends⟩ := ih ⟨next, alarm, q.checks, max q.reach (q.now + w.schedule.interval)⟩ k
    show (progressOf (w.checksFrom fuel
        ⟨next, alarm, q.checks, max q.reach (q.now + w.schedule.interval)⟩) k).checks + 1 ≤ _ ∧
      (progressOf (w.checksFrom fuel
        ⟨next, alarm, q.checks, max q.reach (q.now + w.schedule.interval)⟩) k).now ≤ _
    dsimp only at count ends
    exact ⟨by omega, by omega⟩

theorem checksFrom_within (paced : 0 < w.schedule.interval) (fuel : Nat) :
    w.ChecksWithin fuel := by
  induction fuel with
  | zero =>
    intro p k
    exact ⟨Nat.le_add_right _ _, Nat.le_max_left _ _⟩
  | succ fuel ih =>
    intro p k
    have one : 1 ≤ checksLeft w.schedule p.now := Nat.le_max_left _ _
    cases open_ : decided p.alarm p.now w.schedule.timeout with
    | some winner =>
      -- the race is lost before the check starts: one more check, at the same instant
      simp only [progressOf, checksFrom, checkFrom, open_]
      exact ⟨Nat.add_le_add_left one _, Nat.le_max_left _ _⟩
    | none =>
      have early := early_of_decided open_
      rw [Nat.max_eq_right (Nat.le_of_lt early)]
      simp only [progressOf, checksFrom, checkFrom, open_, StateT.run_bind, probe_run, pure_bind]
      have won := @race_step_reaches p.alarm p.now w.schedule.timeout
        (p.now + (w.state k).delay) (w.state k).yields
      have ended := race_time_le p.alarm p.now w.schedule.timeout (p.now + (w.state k).delay)
        (w.state k).yields
      generalize race p.alarm p.now w.schedule.timeout (p.now + (w.state k).delay)
        (w.state k).yields = r at won ended ⊢
      obtain ⟨winner, time, alarm⟩ := r
      rw [Nat.max_eq_right (Nat.le_of_lt early)] at ended
      dsimp only at won ended ⊢
      have stops : p.checks + 1 ≤ p.checks + checksLeft w.schedule p.now ∧
          time ≤ w.schedule.timeout := ⟨Nat.add_le_add_left one _, ended⟩
      cases winner
      · exact stops
      · exact stops
      · obtain ⟨fetched, fetchedEarly⟩ := won rfl (Nat.le_add_right _ _)
        cases (w.state k).result with
        | error e => exact stops
        | ok v =>
          dsimp only
          cases accepted : w.accept v
          · -- a state not accepted: the pause and the checks after it
            simp only [Bool.false_eq_true, ↓reduceIte]
            show (progressOf (w.pause fuel ⟨time, alarm, p.checks + 1, p.reach⟩) (k + 1)).checks ≤ _ ∧
              (progressOf (w.pause fuel ⟨time, alarm, p.checks + 1, p.reach⟩) (k + 1)).now ≤ _
            obtain ⟨count, ends⟩ := w.pause_within paced ih ⟨time, alarm, p.checks + 1, p.reach⟩
              (k + 1) (show p.now ≤ time by omega) fetchedEarly
            exact ⟨by dsimp only at count; omega, ends⟩
          · simp only [↓reduceIte]
            exact stops

/-- The wait on the script with at most `fuel` checks. -/
def runWith (fuel : Nat) : Except ClientError α × Progress :=
  (Id.run ((run w.what w.schedule 0 w.probe w.accept fuel).run 0)).1

/-- The first check of a wait on a script: at instant 0, with the canceller not yet armed. -/
def start : Progress := ⟨0, alarmOf w.schedule.cancelAfter true, 0, w.schedule.timeout⟩

theorem runWith_eq (fuel : Nat) :
    w.runWith fuel = (Id.run ((w.checksFrom fuel w.start).run 0)).1 := by
  unfold runWith run checksFrom start
  rw [Nat.zero_add]
  cases w.schedule.cancelAfter with
  | none => rfl
  | some t => simp only [Nat.zero_add]; rfl

theorem replay_eq_runWith : w.replay = w.runWith (w.schedule.timeout + w.script.length + 2) := rfl

theorem runWith_end (paced : 0 < w.schedule.interval) {fuel : Nat}
    (enough : w.schedule.timeout < fuel) :
    ((w.runWith fuel).1, (w.runWith fuel).2.now) = w.cancelOr w.quietEnd w.quietYields := by
  rw [runWith_eq]
  exact w.checksFrom_end paced fuel (w.schedule.timeout + 1) 0 (by rw [fetchStart_zero]; omega)
    (by rw [fetchStart_zero]; omega) 0 w.schedule.timeout w.begins_zero

theorem unpaced_checks_stall (unpaced : w.schedule.interval = 0)
    (stuck : ∀ k, (w.state k).delay = 0 ∧ (w.state k).yields = false ∧
      ∃ v, (w.state k).result = .ok v ∧ w.accept v = false)
    (fuel : Nat) : ∀ (now checks reach k : Nat), now < w.schedule.timeout → now ≤ reach →
      Id.run ((w.checksFrom fuel ⟨now, .silent, checks, reach⟩).run k) =
        ((.error (lost w.what w.schedule .deadline), ⟨now, .silent, checks + fuel, reach⟩),
          k + fuel) := by
  induction fuel with
  | zero => intro now checks reach k _ _; rfl
  | succ fuel ih =>
    intro now checks reach k early reached
    obtain ⟨instant, quiet, v, shown, rejected⟩ := stuck k
    -- the fetch and the pause are both over at once, at the instant the check starts
    have fetched : race .silent now w.schedule.timeout (now + (w.state k).delay) false =
        ⟨.step, now, .silent⟩ :=
      race_at_once none true now w.schedule.timeout _ early (by omega)
    have paused : race .silent now w.schedule.timeout
        (min (now + w.schedule.interval) w.schedule.timeout) = ⟨.step, now, .silent⟩ :=
      race_at_once none true now w.schedule.timeout _ early (by omega)
    have stays : max reach (now + w.schedule.interval) = reach := by omega
    simp only [checksFrom, checkFrom, decided_early .silent (by simp) early, StateT.run_bind,
      probe_run, pure_bind, quiet, fetched, shown, rejected, Bool.false_eq_true, ↓reduceIte,
      paused, stays]
    rw [show checks + (fuel + 1) = checks + 1 + fuel by omega,
      show k + (fuel + 1) = k + 1 + fuel by omega]
    exact ih now (checks + 1) reach (k + 1) early reached

end ScriptedWait

end CloudApi.Wait
