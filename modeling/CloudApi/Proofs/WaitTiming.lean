import CloudApi.Proofs.WaitRace

/-!
# When a wait on a script ends

With no canceller the first round that ends a wait decides how (`quietEnd`). A canceller cuts this
short when it comes first, or ties once the waiter's first wait is over (`cancelOr`,
`replay_ends_as_quiet_end_or_cancel`).
-/

namespace CloudApi.Wait

/-- How a run of checks ends: its answer and the instant it ends at. -/
def endOf {α : Type} (x : StateM Nat (Except ClientError α × Progress)) (k : Nat) :
    Except ClientError α × Nat :=
  ((Id.run (x.run k)).1.1, (Id.run (x.run k)).1.2.now)

/-- A wait on a script of states. -/
structure ScriptedWait (α : Type) where
  what : String
  schedule : Schedule
  script : List (Scripted α)
  fallback : Scripted α
  accept : α → Bool

namespace ScriptedWait

variable {α : Type} (w : ScriptedWait α)

/-- The state the `k`-th check sees. -/
def state (k : Nat) : Scripted α := Scripted.nth w.script w.fallback k

/-- The fetch of the script as a check, the checks counted in the state. -/
def probe : Nat → StateM Nat (Probe (StateM Nat) α) := fun _ k =>
  ({ delay := (w.state k).delay, result := (w.state k).result, yields := (w.state k).yields,
     settle := pure () }, k + 1)

/-- The wait as it runs: `Wait.replay` on the script. -/
def replay : Except ClientError α × Progress :=
  Wait.replay w.what w.schedule w.script w.fallback w.accept

/-- The checks of the wait from progress `p`, with `fuel` more checks at most. -/
def checksFrom (fuel : Nat) (p : Progress) : StateM Nat (Except ClientError α × Progress) :=
  checkFrom w.what w.schedule w.schedule.timeout w.probe w.accept fuel p

/-- The rest of a check whose state was not accepted: the pause's race, then the next checks. -/
def pause (fuel : Nat) (p : Progress) : StateM Nat (Except ClientError α × Progress) :=
  let p := { p with reach := max p.reach (p.now + w.schedule.interval) }
  let r := race p.alarm p.now w.schedule.timeout
    (min (p.now + w.schedule.interval) w.schedule.timeout)
  let p' : Progress := { p with now := r.time, alarm := r.alarm }
  match r.winner with
  | .cancel | .deadline => pure (.error (lost w.what w.schedule r.winner), p')
  | .step => w.checksFrom fuel p'

theorem probe_run (now k : Nat) :
    (w.probe now).run k =
      pure ({ delay := (w.state k).delay, result := (w.state k).result,
              yields := (w.state k).yields, settle := pure () }, k + 1) :=
  rfl

theorem replay_eq : w.replay =
    (Id.run ((run w.what w.schedule 0 w.probe w.accept
      (w.schedule.timeout + w.script.length + 2)).run 0)).1 := rfl

theorem endOf_checksFrom_succ (fuel k : Nat) (p : Progress)
    (open_ : decided p.alarm p.now w.schedule.timeout = none) :
    endOf (w.checksFrom (fuel + 1) p) k =
      let r := race p.alarm p.now w.schedule.timeout (p.now + (w.state k).delay)
        (w.state k).yields
      match r.winner with
      | .cancel | .deadline => (.error (lost w.what w.schedule r.winner), r.time)
      | .step =>
        match (w.state k).result with
        | .error e => (.error e, r.time)
        | .ok v =>
          if w.accept v then (.ok v, r.time)
          else endOf (w.pause fuel ⟨r.time, r.alarm, p.checks + 1, p.reach⟩) (k + 1) := by
  simp only [endOf, checksFrom, checkFrom, open_, StateT.run_bind, probe_run, pure_bind]
  generalize race p.alarm p.now w.schedule.timeout _ (w.state k).yields = r
  obtain ⟨winner, time, alarm⟩ := r
  cases winner
  · rfl
  · rfl
  · dsimp only
    cases (w.state k).result with
    | error e => rfl
    | ok v =>
      by_cases accepted : w.accept v
      · simp only [accepted, ↓reduceIte]; rfl
      · simp only [accepted, Bool.false_eq_true, ↓reduceIte]
        rfl

theorem endOf_pause (fuel k : Nat) (p : Progress) :
    endOf (w.pause fuel p) k =
      let r := race p.alarm p.now w.schedule.timeout
        (min (p.now + w.schedule.interval) w.schedule.timeout)
      match r.winner with
      | .cancel | .deadline => (.error (lost w.what w.schedule r.winner), r.time)
      | .step =>
        endOf (w.checksFrom fuel { p with now := r.time, alarm := r.alarm,
                                          reach := max p.reach (p.now + w.schedule.interval) }) k := by
  unfold pause
  dsimp only
  generalize race p.alarm p.now w.schedule.timeout _ false = r
  obtain ⟨winner, time, alarm⟩ := r
  cases winner <;> rfl

/-- When fetch `k` starts in a wait nothing cuts short. -/
def fetchStart : Nat → Nat
  | 0 => 0
  | k + 1 => fetchStart k + (w.state k).delay + w.schedule.interval

/-- The timeout a wait ends with at its deadline. -/
def timedOut : Except ClientError α × Nat :=
  (.error (lost w.what w.schedule .deadline), w.schedule.timeout)

/-- How round `k` ends a wait nothing cancels, if it does. -/
def roundEnd (k : Nat) : Option (Except ClientError α × Nat) :=
  let done := w.fetchStart k + (w.state k).delay
  if w.schedule.timeout ≤ done then some w.timedOut
  else
    match (w.state k).result with
    | .error e => some (.error e, done)
    | .ok v =>
      if w.accept v then some (.ok v, done)
      else if w.schedule.timeout ≤ done + w.schedule.interval then some w.timedOut
      else none

/-- The end of a wait nothing cancels, from round `k` on and at most `n` rounds ahead. -/
def quietFrom : Nat → Nat → Except ClientError α × Nat
  | 0, _ => w.timedOut
  | n + 1, k => (w.roundEnd k).getD (quietFrom n (k + 1))

/-- The end of a wait nothing cancels: the first of its rounds that ends it. -/
def quietEnd : Except ClientError α × Nat := w.quietFrom (w.schedule.timeout + 1) 0

/-- Whether the quiet end from round `k` is a fetch out on the network done before the deadline. -/
def quietYieldsFrom : Nat → Nat → Bool
  | 0, _ => false
  | n + 1, k =>
    match w.roundEnd k with
    | some e => (w.state k).yields && decide (e.2 < w.schedule.timeout)
    | none => quietYieldsFrom n (k + 1)

/-- Whether a wait nothing cancels ends with a fetch that goes out on the network. -/
def quietYields : Bool := w.quietYieldsFrom (w.schedule.timeout + 1) 0

/-- When the waiter's first wait would end. -/
def firstWait : Nat :=
  if 0 < (w.state 0).delay ∨ (w.state 0).yields = true then (w.state 0).delay
  else w.schedule.interval

/-- How a wait whose quiet end is `e` ends: cancelled if the cancellation comes first, or ties
with `e` once the first wait is over or `e` is a fetch out on the network. -/
def cancelOr (e : Except ClientError α × Nat) (tied : Bool) : Except ClientError α × Nat :=
  match w.schedule.cancelAfter with
  | some t =>
    if t < e.2 ∨ (t = e.2 ∧ (w.firstWait < e.2 ∨ tied = true)) then (.error (.cancelled w.what), t)
    else e
  | none => e

@[simp] theorem fetchStart_zero : w.fetchStart 0 = 0 := rfl

theorem fetchStart_succ (k : Nat) :
    w.fetchStart (k + 1) = w.fetchStart k + (w.state k).delay + w.schedule.interval := rfl

section Rounds

variable {w} {k : Nat}

theorem roundEnd_late (late : w.schedule.timeout ≤ w.fetchStart k + (w.state k).delay) :
    w.roundEnd k = some w.timedOut := by
  simp [roundEnd, late]

theorem roundEnd_error {e : ClientError}
    (early : w.fetchStart k + (w.state k).delay < w.schedule.timeout)
    (failed : (w.state k).result = .error e) :
    w.roundEnd k = some (.error e, w.fetchStart k + (w.state k).delay) := by
  simp [roundEnd, Nat.not_le.2 early, failed]

theorem roundEnd_accepted {v : α} (early : w.fetchStart k + (w.state k).delay < w.schedule.timeout)
    (shown : (w.state k).result = .ok v) (accepted : w.accept v = true) :
    w.roundEnd k = some (.ok v, w.fetchStart k + (w.state k).delay) := by
  simp [roundEnd, Nat.not_le.2 early, shown, accepted]

theorem roundEnd_pause_late {v : α}
    (early : w.fetchStart k + (w.state k).delay < w.schedule.timeout)
    (shown : (w.state k).result = .ok v) (rejected : w.accept v = false)
    (late : w.schedule.timeout ≤ w.fetchStart k + (w.state k).delay + w.schedule.interval) :
    w.roundEnd k = some w.timedOut := by
  simp [roundEnd, Nat.not_le.2 early, shown, rejected, late]

theorem roundEnd_pause {v : α}
    (shown : (w.state k).result = .ok v) (rejected : w.accept v = false)
    (sooner : w.fetchStart k + (w.state k).delay + w.schedule.interval < w.schedule.timeout) :
    w.roundEnd k = none := by
  have early : ¬ w.schedule.timeout ≤ w.fetchStart k + (w.state k).delay := by omega
  simp [roundEnd, shown, rejected, Nat.not_le.2 sooner, early]

theorem roundEnd_cases :
    (w.roundEnd k = some w.timedOut ∧
        w.schedule.timeout ≤ w.fetchStart k + (w.state k).delay + w.schedule.interval) ∨
      (∃ r, w.roundEnd k = some (r, w.fetchStart k + (w.state k).delay) ∧
        w.fetchStart k + (w.state k).delay < w.schedule.timeout) ∨
      (w.roundEnd k = none ∧ w.fetchStart (k + 1) < w.schedule.timeout) := by
  by_cases late : w.schedule.timeout ≤ w.fetchStart k + (w.state k).delay
  · exact .inl ⟨roundEnd_late late, Nat.le_trans late (Nat.le_add_right _ _)⟩
  · have early := Nat.lt_of_not_le late
    cases shown : (w.state k).result with
    | error e => exact .inr (.inl ⟨_, roundEnd_error early shown, early⟩)
    | ok v =>
      cases accepted : w.accept v
      · by_cases paused :
            w.schedule.timeout ≤ w.fetchStart k + (w.state k).delay + w.schedule.interval
        · exact .inl ⟨roundEnd_pause_late early shown accepted paused, paused⟩
        · have sooner := Nat.lt_of_not_le paused
          exact .inr (.inr ⟨roundEnd_pause shown accepted sooner, sooner⟩)
      · exact .inr (.inl ⟨_, roundEnd_accepted early shown accepted, early⟩)

theorem roundEnd_none (open_ : w.roundEnd k = none) :
    w.fetchStart (k + 1) < w.schedule.timeout := by
  rcases w.roundEnd_cases with ⟨ends, _⟩ | ⟨_, ends, _⟩ | ⟨_, sooner⟩
  · rw [ends] at open_; cases open_
  · rw [ends] at open_; cases open_
  · exact sooner

theorem roundEnd_some {e : Except ClientError α × Nat} (ends : w.roundEnd k = some e) :
    min w.schedule.timeout (w.fetchStart k + (w.state k).delay) ≤ e.2 := by
  rcases w.roundEnd_cases with ⟨timeout, _⟩ | ⟨r, done, _⟩ | ⟨open_, _⟩
  · rw [timeout, Option.some.injEq] at ends
    subst ends
    exact Nat.min_le_left _ _
  · rw [done, Option.some.injEq] at ends
    subst ends
    exact Nat.min_le_right _ _
  · rw [open_] at ends; cases ends

theorem quietFrom_rejected {n b : Nat} {v : α} (done : b = w.fetchStart k + (w.state k).delay)
    (early : b < w.schedule.timeout) (shown : (w.state k).result = .ok v)
    (rejected : w.accept v = false) :
    (w.schedule.timeout ≤ w.fetchStart (k + 1) ∧ w.quietFrom (n + 1) k = w.timedOut ∧
        w.quietYieldsFrom (n + 1) k = false) ∨
      (w.fetchStart (k + 1) < w.schedule.timeout ∧ w.quietFrom (n + 1) k = w.quietFrom n (k + 1) ∧
        w.quietYieldsFrom (n + 1) k = w.quietYieldsFrom n (k + 1)) := by
  rw [fetchStart_succ, ← done]
  by_cases late : w.schedule.timeout ≤ b + w.schedule.interval
  · have ends := roundEnd_pause_late (done ▸ early) shown rejected (done ▸ late)
    refine .inl ⟨late, ?_, ?_⟩
    · rw [quietFrom, ends, Option.getD_some]
    · simp [quietYieldsFrom, ends, timedOut]
  · have goesOn := roundEnd_pause shown rejected (done ▸ Nat.lt_of_not_le late)
    refine .inr ⟨Nat.lt_of_not_le late, ?_, ?_⟩
    · rw [quietFrom, goesOn, Option.getD_none]
    · simp only [quietYieldsFrom, goesOn]

theorem quietYieldsFrom_done {n : Nat} {r : Except ClientError α}
    (ends : w.roundEnd k = some (r, w.fetchStart k + (w.state k).delay))
    (early : w.fetchStart k + (w.state k).delay < w.schedule.timeout) :
    w.quietYieldsFrom (n + 1) k = (w.state k).yields := by
  simp [quietYieldsFrom, ends, early]

end Rounds

theorem quietFrom_ge (n : Nat) : ∀ k, w.fetchStart k ≤ w.schedule.timeout →
    w.fetchStart k ≤ (w.quietFrom n k).2 := by
  induction n with
  | zero => intro k before; exact before
  | succ n ih =>
    intro k before
    simp only [quietFrom]
    cases ends : w.roundEnd k with
    | some e =>
      have := roundEnd_some ends
      simp only [Option.getD_some]
      omega
    | none =>
      have next := roundEnd_none ends
      have later := ih (k + 1) (Nat.le_of_lt next)
      rw [fetchStart_succ] at later
      simp only [Option.getD_none]
      omega

theorem quietFrom_succ_ge (n k : Nat) :
    min w.schedule.timeout (w.fetchStart k + (w.state k).delay) ≤ (w.quietFrom (n + 1) k).2 := by
  simp only [quietFrom]
  cases ends : w.roundEnd k with
  | some e => exact roundEnd_some ends
  | none =>
    have next := roundEnd_none ends
    have later := w.quietFrom_ge n (k + 1) (Nat.le_of_lt next)
    rw [fetchStart_succ] at later
    simp only [Option.getD_none]
    omega

theorem quietYieldsFrom_at_done (paced : 0 < w.schedule.interval) {n k : Nat}
    (at_ : (w.quietFrom (n + 1) k).2 = w.fetchStart k + (w.state k).delay)
    (early : w.fetchStart k + (w.state k).delay < w.schedule.timeout) :
    w.quietYieldsFrom (n + 1) k = (w.state k).yields := by
  rcases w.roundEnd_cases (k := k) with ⟨timeout, _⟩ | ⟨r, done, _⟩ | ⟨goesOn, sooner⟩
  · -- a timeout ends at the deadline, after the fetch
    rw [quietFrom, timeout, Option.getD_some, timedOut] at at_
    omega
  · exact quietYieldsFrom_done done early
  · -- the next round starts an interval after the fetch, and the wait ends no earlier
    have later := w.quietFrom_ge n (k + 1) (Nat.le_of_lt sooner)
    rw [quietFrom, goesOn, Option.getD_none] at at_
    rw [fetchStart_succ] at later
    omega

section Cancel

variable {w} {e : Except ClientError α × Nat} {tied : Bool}

theorem cancelOr_cancel {t : Nat} (due : w.schedule.cancelAfter = some t)
    (sooner : t < e.2 ∨ (t = e.2 ∧ (w.firstWait < e.2 ∨ tied = true))) :
    w.cancelOr e tied = (.error (.cancelled w.what), t) := by
  unfold cancelOr
  rw [due]
  exact if_pos sooner

theorem cancelOr_cut {t m : Nat} (due : w.schedule.cancelAfter = some t) (reach : m ≤ e.2)
    (cut : t < m ∨ (t = m ∧ w.firstWait < m)) :
    w.cancelOr e tied = (.error (.cancelled w.what), t) :=
  cancelOr_cancel due (by omega)

theorem cancelOr_keep
    (later : ∀ t, w.schedule.cancelAfter = some t →
      e.2 < t ∨ (t = e.2 ∧ e.2 ≤ w.firstWait ∧ tied = false)) :
    w.cancelOr e tied = e := by
  unfold cancelOr
  split
  · rename_i t due
    rw [if_neg]
    rcases later t due with after | ⟨same, notPast, quiet⟩
    · omega
    · rintro (before | ⟨_, past | tie⟩)
      · omega
      · omega
      · rw [quiet] at tie
        cases tie
  · rfl

end Cancel

theorem firstWait_of_waits (waits : 0 < (w.state 0).delay ∨ (w.state 0).yields = true) :
    w.firstWait = (w.state 0).delay :=
  if_pos waits

theorem firstWait_of_instant (instant : (w.state 0).delay = 0)
    (quiet : (w.state 0).yields = false) : w.firstWait = w.schedule.interval :=
  if_neg (by simp [instant, quiet])

/-- Where a wait stands when round `k` begins and nothing has ended it. -/
structure Begins (k : Nat) : Prop where
  beforeDeadline : k = 0 ∨ w.fetchStart k < w.schedule.timeout
  pastFirst : k = 0 ∨ w.firstWait ≤ w.fetchStart k
  uncancelled : ∀ t, w.schedule.cancelAfter = some t →
    w.fetchStart k < t ∨ (t = w.fetchStart k ∧ w.fetchStart k ≤ w.firstWait)

theorem begins_zero : w.Begins 0 :=
  ⟨.inl rfl, .inl rfl, fun t _ => by
    rw [fetchStart_zero]
    omega⟩

theorem Begins.not_past {w : ScriptedWait α} {k : Nat} (begins : w.Begins k) :
    ¬ w.schedule.timeout < w.fetchStart k := by
  rcases begins.beforeDeadline with rfl | early
  · rw [fetchStart_zero]
    omega
  · omega

/-- The checks from round `k` end the wait as its quiet end, cancelled if that comes first. -/
def EndsFrom (fuel n k : Nat) : Prop :=
  ∀ checks reach, w.Begins k →
    endOf (w.checksFrom fuel
      ⟨w.fetchStart k, alarmOf w.schedule.cancelAfter (k == 0), checks, reach⟩) k =
      w.cancelOr (w.quietFrom n k) (w.quietYieldsFrom n k)

section Round

variable {w} {fuel n k checks reach : Nat}

theorem pause_end {b : Nat} {first : Bool} {v : α} (paced : 0 < w.schedule.interval)
    (done : b = w.fetchStart k + (w.state k).delay) (early : b < w.schedule.timeout)
    (shown : (w.state k).result = .ok v) (rejected : w.accept v = false)
    (waitedOut : first = false → w.firstWait ≤ b)
    (waitingNow : first = true → w.firstWait = w.fetchStart (k + 1))
    (next : w.EndsFrom fuel n (k + 1)) :
    endOf (w.pause fuel ⟨b, alarmOf w.schedule.cancelAfter first, checks, reach⟩) (k + 1) =
      w.cancelOr (w.quietFrom (n + 1) k) (w.quietYieldsFrom (n + 1) k) := by
  have start : w.fetchStart (k + 1) = b + w.schedule.interval := by rw [fetchStart_succ, done]
  have pastFirst : w.firstWait ≤ w.fetchStart (k + 1) := by
    cases first with
    | false => have := waitedOut rfl; omega
    | true => exact Nat.le_of_eq (waitingNow rfl)
  have quiet := quietFrom_rejected (n := n) done early shown rejected
  have reached : min w.schedule.timeout (w.fetchStart (k + 1)) ≤ (w.quietFrom (n + 1) k).2 := by
    rcases quiet with ⟨_, stop, _⟩ | ⟨sooner, go, _⟩
    · rw [stop]
      exact Nat.min_le_left _ _
    · rw [go]
      exact Nat.le_trans (Nat.min_le_right _ _) (w.quietFrom_ge n (k + 1) (Nat.le_of_lt sooner))
  -- the pause wakes at the next round's start, or at the deadline if that comes first
  rw [endOf_pause]
  dsimp only
  rw [show min (b + w.schedule.interval) w.schedule.timeout =
    min w.schedule.timeout (w.fetchStart (k + 1)) by omega]
  by_cases cut : ∃ t, w.schedule.cancelAfter = some t ∧
      (t < min w.schedule.timeout (w.fetchStart (k + 1)) ∨
        (t = min w.schedule.timeout (w.fetchStart (k + 1)) ∧
          (first = false ∨
            (false = true ∧ min w.schedule.timeout (w.fetchStart (k + 1)) < w.schedule.timeout))))
  · obtain ⟨t, due, cut⟩ := cut
    rw [race_wait_cancel due (by rwa [← Nat.min_assoc, Nat.min_self]) early (.inl (by omega)),
      cancelOr_cut due reached ?_]
    · rfl
    · rcases cut with before | ⟨rfl, waited | never⟩
      · exact .inl before
      · exact .inr ⟨rfl, by have := waitedOut waited; omega⟩
      · cases never.1
  · have uncut := uncut_of_not cut
    rcases quiet with ⟨late, stop, stopQuiet⟩ | ⟨sooner, go, goQuiet⟩
    · -- the pause reaches the deadline
      have atDeadline : w.timedOut.2 = w.schedule.timeout := rfl
      rw [Nat.min_eq_left late] at uncut ⊢
      rw [race_wait_deadline (Nat.le_refl _) (fun t due => ?_) early (.inl early), stop,
        stopQuiet, cancelOr_keep ?_]
      · rfl
      · intro t due
        rw [atDeadline]
        rcases uncut t due with after | ⟨rfl, firstly, _⟩
        · exact .inl after
        · exact .inr ⟨rfl, by rw [waitingNow firstly]; exact late, rfl⟩
      · rcases uncut t due with after | ⟨same, firstly, _⟩
        · exact .inl after
        · exact .inr ⟨same, firstly⟩
    · -- the pause ends when the next round starts
      rw [Nat.min_eq_right (Nat.le_of_lt sooner)] at uncut ⊢
      rw [race_wait_step sooner (fun t due => ?_) early (.inl (by omega)), go, goQuiet]
      · refine next _ _ ⟨.inr sooner, .inr pastFirst, fun t due => ?_⟩
        rcases uncut t due with after | ⟨rfl, firstly, _⟩
        · exact .inl after
        · exact .inr ⟨rfl, Nat.le_of_eq (waitingNow firstly).symm⟩
      · rcases uncut t due with after | ⟨same, firstly, _⟩
        · exact .inl after
        · exact .inr ⟨same, firstly, rfl⟩

theorem fetched_end {b : Nat} {first : Bool} (paced : 0 < w.schedule.interval)
    (done : b = w.fetchStart k + (w.state k).delay) (early : b < w.schedule.timeout)
    (waitedOut : first = false → w.firstWait ≤ b)
    (waitingNow : first = true → w.firstWait = w.fetchStart (k + 1))
    (later : ∀ t, w.schedule.cancelAfter = some t →
      b < t ∨ (t = b ∧ b ≤ w.firstWait ∧ (w.state k).yields = false))
    (next : w.EndsFrom fuel n (k + 1)) :
    (match (w.state k).result with
      | .error e => (.error e, b)
      | .ok v =>
        if w.accept v then (.ok v, b)
        else endOf (w.pause fuel ⟨b, alarmOf w.schedule.cancelAfter first, checks, reach⟩)
          (k + 1)) =
      w.cancelOr (w.quietFrom (n + 1) k) (w.quietYieldsFrom (n + 1) k) := by
  -- a result when the fetch is done is the quiet end, and ties only as its fetch does
  have keep : ∀ r, w.roundEnd k = some (r, b) →
      w.cancelOr (w.quietFrom (n + 1) k) (w.quietYieldsFrom (n + 1) k) = (r, b) := by
    intro r ends
    rw [quietYieldsFrom_done (done ▸ ends) (done ▸ early), quietFrom, ends, Option.getD_some]
    exact cancelOr_keep later
  cases shown : (w.state k).result with
  | error e => exact (keep _ (done ▸ roundEnd_error (done ▸ early) shown)).symm
  | ok v =>
    cases accepted : w.accept v
    · simp only [accepted, Bool.false_eq_true, ↓reduceIte]
      exact pause_end paced done early shown accepted waitedOut waitingNow next
    · simp only [accepted, ↓reduceIte]
      exact (keep _ (done ▸ roundEnd_accepted (done ▸ early) shown accepted)).symm

theorem late_round_end (begins : w.Begins k) (late : w.schedule.timeout ≤ w.fetchStart k) :
    endOf (w.checksFrom (fuel + 1)
      ⟨w.fetchStart k, alarmOf w.schedule.cancelAfter (k == 0), checks, reach⟩) k =
      w.cancelOr (w.quietFrom (n + 1) k) (w.quietYieldsFrom (n + 1) k) := by
  have first : k = 0 := begins.beforeDeadline.resolve_right (Nat.not_lt.2 late)
  subst first
  have zero : w.schedule.timeout = 0 := Nat.le_zero.1 late
  have ends := roundEnd_late (w := w) (k := 0) (Nat.le_trans late (Nat.le_add_right _ _))
  have stop : w.quietFrom (n + 1) 0 = w.timedOut := by rw [quietFrom, ends, Option.getD_some]
  have stopQuiet : w.quietYieldsFrom (n + 1) 0 = false := by
    simp [quietYieldsFrom, ends, timedOut]
  have atStart : w.timedOut.2 = 0 := zero
  rw [stop, stopQuiet, cancelOr_keep (fun t _ => ?_)]
  · simp only [endOf, checksFrom, checkFrom, decided_late _ _ late]
    rw [timedOut, zero]
    rfl
  · rw [atStart]
    rcases Nat.eq_zero_or_pos t with rfl | after
    · exact .inr ⟨rfl, Nat.zero_le _, rfl⟩
    · exact .inl after

theorem instant_round_end (paced : 0 < w.schedule.interval) (begins : w.Begins k)
    (early : w.fetchStart k < w.schedule.timeout) (instant : (w.state k).delay = 0)
    (quiet : (w.state k).yields = false) (next : w.EndsFrom fuel n (k + 1)) :
    endOf (w.checksFrom (fuel + 1)
      ⟨w.fetchStart k, alarmOf w.schedule.cancelAfter (k == 0), checks, reach⟩) k =
      w.cancelOr (w.quietFrom (n + 1) k) (w.quietYieldsFrom (n + 1) k) := by
  rw [endOf_checksFrom_succ _ _ _ _ (decided_alarmOf _ _ _ _ early)]
  dsimp only
  rw [quiet, race_at_once _ _ _ _ _ early (by omega)]
  dsimp only
  refine fetched_end paced (by omega) early (fun notFirst => ?_) (fun firstly => ?_)
    (fun t due => ?_) next
  · -- a later round starts after the first wait
    exact (begins.pastFirst.resolve_left (by simpa using notFirst))
  · -- the first round's first wait is its pause
    have zero : k = 0 := by simpa using firstly
    subst zero
    rw [firstWait_of_instant _ instant quiet, fetchStart_succ, instant, fetchStart_zero]
    omega
  · rcases begins.uncancelled t due with after | ⟨same, notPast⟩
    · exact .inl (by omega)
    · exact .inr ⟨by omega, by omega, quiet⟩

theorem waited_round_end (paced : 0 < w.schedule.interval) (begins : w.Begins k)
    (early : w.fetchStart k < w.schedule.timeout)
    (waits : 0 < (w.state k).delay ∨ (w.state k).yields = true)
    (next : w.EndsFrom fuel n (k + 1)) :
    endOf (w.checksFrom (fuel + 1)
      ⟨w.fetchStart k, alarmOf w.schedule.cancelAfter (k == 0), checks, reach⟩) k =
      w.cancelOr (w.quietFrom (n + 1) k) (w.quietYieldsFrom (n + 1) k) := by
  -- in the first round the fetch is the first wait; in a later one it ends after it
  have opening : k = 0 → w.firstWait = w.fetchStart k + (w.state k).delay := by
    rintro rfl
    rw [firstWait_of_waits _ waits, fetchStart_zero, Nat.zero_add]
  have waited : w.firstWait ≤ w.fetchStart k + (w.state k).delay := by
    rcases begins.pastFirst with first | past
    · exact Nat.le_of_eq (opening first)
    · omega
  have raceWaits : w.fetchStart k < w.fetchStart k + (w.state k).delay ∨
      (w.state k).yields = true := by
    rcases waits with pos | yielding
    · exact .inl (by omega)
    · exact .inr yielding
  have ends := w.quietFrom_succ_ge n k
  rw [endOf_checksFrom_succ _ _ _ _ (decided_alarmOf _ _ _ _ early)]
  dsimp only
  by_cases cut : ∃ t, w.schedule.cancelAfter = some t ∧
      (t < min w.schedule.timeout (w.fetchStart k + (w.state k).delay) ∨
        (t = min w.schedule.timeout (w.fetchStart k + (w.state k).delay) ∧
          ((k == 0) = false ∨ ((w.state k).yields = true ∧
            w.fetchStart k + (w.state k).delay < w.schedule.timeout))))
  · obtain ⟨t, due, cut⟩ := cut
    rw [race_wait_cancel due cut early raceWaits, cancelOr_cancel due ?_]
    · rfl
    -- a tie at the fetch's end goes to the canceller once the first wait is over, and when the
    -- fetch goes out on the network
    rcases cut with before | ⟨rfl, notFirst | ⟨yielding, sooner⟩⟩
    · exact .inl (by omega)
    · have past : w.firstWait ≤ w.fetchStart k :=
        begins.pastFirst.resolve_left (by simpa using notFirst)
      rcases Nat.lt_or_eq_of_le ends with later | same
      · exact .inl later
      · refine .inr ⟨same, ?_⟩
        by_cases moved :
            w.fetchStart k < min w.schedule.timeout (w.fetchStart k + (w.state k).delay)
        · exact .inl (by omega)
        · -- a fetch done at once races only when it goes out on the network, and ends the wait
          have yielding : (w.state k).yields = true := waits.resolve_left (by omega)
          exact .inr (by rw [w.quietYieldsFrom_at_done paced (by omega) (by omega), yielding])
    · rcases Nat.lt_or_eq_of_le ends with later | same
      · exact .inl later
      · exact .inr ⟨same, .inr (by
          rw [w.quietYieldsFrom_at_done paced (by omega) sooner, yielding])⟩
  · have uncut := uncut_of_not cut
    by_cases late : w.schedule.timeout ≤ w.fetchStart k + (w.state k).delay
    · have stopEnd := roundEnd_late late
      have stop : w.quietFrom (n + 1) k = w.timedOut := by
        rw [quietFrom, stopEnd, Option.getD_some]
      have stopQuiet : w.quietYieldsFrom (n + 1) k = false := by
        simp [quietYieldsFrom, stopEnd, timedOut]
      have atDeadline : w.timedOut.2 = w.schedule.timeout := rfl
      rw [Nat.min_eq_left late] at uncut
      rw [race_wait_deadline late (fun t due => ?_) early raceWaits, stop, stopQuiet,
        cancelOr_keep ?_]
      · rfl
      · intro t due
        rw [atDeadline]
        rcases uncut t due with after | ⟨rfl, firstly, _⟩
        · exact .inl after
        · exact .inr ⟨rfl, by rw [opening (by simpa using firstly)]; exact late, rfl⟩
      · rcases uncut t due with after | ⟨same, firstly, _⟩
        · exact .inl after
        · exact .inr ⟨same, by simpa using firstly⟩
    · have sooner := Nat.lt_of_not_le late
      rw [Nat.min_eq_right (Nat.le_of_lt sooner)] at uncut
      -- a canceller tied with the fetch's end left it alone: its alarm came first, and the fetch
      -- does not go out on the network
      have quietTie : ∀ t, w.schedule.cancelAfter = some t →
          w.fetchStart k + (w.state k).delay < t ∨
            (t = w.fetchStart k + (w.state k).delay ∧ k = 0 ∧ (w.state k).yields = false) := by
        intro t due
        rcases uncut t due with after | ⟨same, firstly, untied⟩
        · exact .inl after
        · refine .inr ⟨same, by simpa using firstly, ?_⟩
          cases quiet : (w.state k).yields
          · rfl
          · exact absurd ⟨quiet, sooner⟩ untied
      rw [race_wait_step sooner (fun t due => ?_) early raceWaits]
      · refine fetched_end paced rfl sooner (fun _ => waited) (fun never => by cases never)
          (fun t due => ?_) next
        rcases quietTie t due with after | ⟨rfl, first, quiet⟩
        · exact .inl after
        · exact .inr ⟨rfl, Nat.le_of_eq (opening first).symm, quiet⟩
      · rcases quietTie t due with after | ⟨same, first, quiet⟩
        · exact .inl after
        · exact .inr ⟨same, by simp [first], quiet⟩

end Round

theorem checksFrom_end (paced : 0 < w.schedule.interval) (fuel : Nat) :
    ∀ n k, w.schedule.timeout < w.fetchStart k + fuel → w.schedule.timeout < w.fetchStart k + n →
      w.EndsFrom fuel n k := by
  induction fuel with
  | zero =>
    intro n k short _ checks reach begins
    exact (begins.not_past (by omega)).elim
  | succ fuel ih =>
    intro n k enoughFuel enoughRounds checks reach begins
    cases n with
    | zero => exact (begins.not_past (by omega)).elim
    | succ n =>
      -- the next round starts an interval later at least, with fuel and rounds to spare
      have next : w.EndsFrom fuel n (k + 1) := by
        intro checks reach begins'
        have later : w.fetchStart k + w.schedule.interval ≤ w.fetchStart (k + 1) := by
          rw [fetchStart_succ]; omega
        exact ih n (k + 1) (by omega) (by omega) checks reach begins'
      by_cases late : w.schedule.timeout ≤ w.fetchStart k
      · exact late_round_end begins late
      · have early := Nat.lt_of_not_le late
        by_cases instant : (w.state k).delay = 0 ∧ (w.state k).yields = false
        · exact instant_round_end paced begins early instant.1 instant.2 next
        · refine waited_round_end paced begins early ?_ next
          cases quiet : (w.state k).yields
          · exact .inl (Nat.pos_of_ne_zero fun zero => instant ⟨zero, quiet⟩)
          · exact .inr rfl

theorem replay_eq_checksFrom :
    w.replay = (Id.run ((w.checksFrom (w.schedule.timeout + w.script.length + 2)
      ⟨0, alarmOf w.schedule.cancelAfter true, 0, w.schedule.timeout⟩).run 0)).1 := by
  rw [replay_eq]
  unfold run checksFrom
  -- the wait starts at instant 0, so its deadline and the canceller's instant are as given
  rw [Nat.zero_add]
  cases w.schedule.cancelAfter with
  | none => rfl
  | some t => simp only [Nat.zero_add]; rfl

theorem replay_ends_as_quiet_end_or_cancel (paced : 0 < w.schedule.interval) :
    (w.replay.1, w.replay.2.now) = w.cancelOr w.quietEnd w.quietYields := by
  have ran := w.checksFrom_end paced (w.schedule.timeout + w.script.length + 2)
    (w.schedule.timeout + 1) 0 (by rw [fetchStart_zero]; omega) (by rw [fetchStart_zero]; omega)
    0 w.schedule.timeout w.begins_zero
  rw [replay_eq_checksFrom]
  exact ran

end ScriptedWait

end CloudApi.Wait
