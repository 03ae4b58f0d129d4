import Mathlib
import CloudApi.Proofs.Calls

/-!
# The retry schedule

`Follows` relates the start of a call's attempts to the requests sent, the sleeps and the answer,
and `attempts_follow` shows that `Pipeline.attempts` runs along it. The retry rules are read off
it (`execute_keeps_retry_contract`).
-/

namespace CloudApi

namespace Span

theorem le_def (a b : Span) : a ≤ b ↔ a.nanos ≤ b.nanos := Iff.rfl
theorem lt_def (a b : Span) : a < b ↔ a.nanos < b.nanos := Iff.rfl
@[simp] theorem add_nanos (a b : Span) : (a + b).nanos = a.nanos + b.nanos := rfl
@[simp] theorem sub_nanos (a b : Span) : (a - b).nanos = a.nanos - b.nanos := rfl
@[simp] theorem min_nanos (a b : Span) : (a.min b).nanos = Min.min a.nanos b.nanos := by
  unfold Span.min
  split
  · rename_i h; exact (Nat.min_eq_left h).symm
  · rename_i h; exact (Nat.min_eq_right (Nat.le_of_lt (Nat.lt_of_not_le h))).symm

end Span

namespace Pipeline

open Retry

/-- The rules decline a failed response at attempt `n`: a budget is spent or nothing matches. -/
def Declines (p : Policy) (n waited : Nat) (i : Input) (sample : Float) : Prop :=
  p.maxRetries ≤ n ∨ p.maxWait.nanos ≤ waited ∨ p.shouldRetry n i sample = .stop

section Schedule

variable (p : Policy) (jitter : Nat → Float) (timeout : Nat) (refuses : String → Prop)

/-- `Follows p jitter timeout refuses n waited t ds sleeps t' r`: from attempt `n` at instant `t`,
a call sends `ds` and sleeps `sleeps`, ending at `t'` with `r`. -/
inductive Follows : Nat → Span → Nat → List Delivery → List Span → Nat →
    Except ClientError Http.Response → Prop where
  | broken {n w t d f} (sent : d.sentAt = t) (got : d.received timeout = .error f) :
      Follows n w t [d] [] (t + d.elapsed timeout) (.error (.transport f))
  | succeeded {n w t d resp} (sent : d.sentAt = t) (got : d.received timeout = .ok resp)
      (ok : classify resp = none) :
      Follows n w t [d] [] (t + d.elapsed timeout) (.ok resp)
  | rejected {n w t d resp m} (sent : d.sentAt = t) (got : d.received timeout = .ok resp)
      (hook : refuses m) :
      Follows n w t [d] [] (t + d.elapsed timeout) (.error (.hook m))
  | declined {n w t d resp e} (sent : d.sentAt = t) (got : d.received timeout = .ok resp)
      (failed : classify resp = some e)
      (stop : Declines p n w.nanos (.ofFailure resp e) (jitter n)) :
      Follows n w t [d] [] (t + d.elapsed timeout) (.error (.api e))
  | retried {n w t d resp e cond wait ds ss t' r} (sent : d.sentAt = t)
      (got : d.received timeout = .ok resp) (failed : classify resp = some e)
      (attempts : n < p.maxRetries) (budget : w < p.maxWait)
      (matched : p.shouldRetry n (.ofFailure resp e) (jitter n) = .retry cond wait)
      (rest : Follows (n + 1) (w + wait.min (p.maxWait - w))
        (t + d.elapsed timeout + sleepMillis (wait.min (p.maxWait - w))) ds ss t' r) :
      Follows n w t (d :: ds) (wait.min (p.maxWait - w) :: ss) t' r
  | halted {n w t d resp e cond wait m} (sent : d.sentAt = t)
      (got : d.received timeout = .ok resp) (failed : classify resp = some e)
      (attempts : n < p.maxRetries) (budget : w < p.maxWait)
      (matched : p.shouldRetry n (.ofFailure resp e) (jitter n) = .retry cond wait) (hook : refuses m) :
      Follows n w t [d] [wait.min (p.maxWait - w)]
        (t + d.elapsed timeout + sleepMillis (wait.min (p.maxWait - w))) (.error (.hook m))

end Schedule

theorem nextRetry_eq_retry {p : Policy} {n : Nat} {w : Span} {i : Input} {sample : Float}
    {cond : String} {s : Span} (h : p.nextRetry n w i sample = .retry cond s) :
    n < p.maxRetries ∧ w < p.maxWait ∧
      ∃ wait, p.shouldRetry n i sample = .retry cond wait ∧ s = wait.min (p.maxWait - w) := by
  unfold Policy.nextRetry at h
  split at h
  · cases h
  · rename_i within
    simp only [not_or, Nat.not_le] at within
    split at h
    · rename_i c' wait matched
      cases h
      have budget := within.2
      rw [ge_iff_le, Span.le_def] at budget
      exact ⟨by omega, (Span.lt_def _ _).2 (by omega), wait, matched, rfl⟩
    · cases h

theorem nextRetry_eq_stop {p : Policy} {n : Nat} {w : Span} {i : Input} {sample : Float}
    (h : p.nextRetry n w i sample = .stop) : Declines p n w.nanos i sample := by
  unfold Policy.nextRetry at h
  split at h
  · rename_i spent
    rcases spent with spent | spent
    · exact .inl spent
    · exact .inr (.inl spent)
  · split at h
    · cases h
    · rename_i stopped
      exact .inr (.inr stopped)

theorem attempts_follow (url : Web.Url) (key : Option String) (req : ApiRequest)
    (headers : Http.Headers) (fuel : Nat) :
    ∀ (n : Nat) (w : Span) (o : HookRequest) (c c' : Client) (r : Except ClientError Http.Response),
      c.retry.maxRetries + 2 ≤ n + fuel → n ≤ c.retry.maxRetries →
      Id.run ((attempts url key req headers fuel n w o).run c) = (r, c') →
      ∃ ds ss, c'.network.sent = c.network.sent ++ ds ∧
        Follows c.retry c.jitter c.timeout (Refuses c) n w c.clock ds ss c'.clock r ∧
          setup c' = setup c := by
  intro n w o c c' r hfuel hn run
  have runs := attempts_runs url key req headers run
  clear run
  -- the fuel outlasts the budget of retries, so it never runs out
  induction runs with
  | exhausted => omega
  | broken got => exact ⟨_, [], rfl, .broken rfl got, by simp⟩
  | rejected got stop =>
    exact ⟨_, [], rfl, .rejected rfl got (.inr (runAfter_refuses stop)), by simp⟩
  | succeeded got _ ok => exact ⟨_, [], rfl, .succeeded rfl got ok, by simp⟩
  | declined got _ failed stop =>
    exact ⟨_, [], rfl, .declined rfl got failed (nextRetry_eq_stop stop), by simp⟩
  | halted got _ failed grant stop =>
    obtain ⟨attempts, budget, wait, matched, rfl⟩ := nextRetry_eq_retry grant
    exact ⟨_, [_], rfl, .halted rfl got failed attempts budget matched
      (.inl (runBefore_refuses stop)), by simp⟩
  | @retried fuel n w o c _ _ _ _ _ _ _ got _ failed grant _ _ ih =>
    obtain ⟨attempts, budget, wait, matched, rfl⟩ := nextRetry_eq_retry grant
    obtain ⟨ds, ss, sent, follows, same⟩ :=
      ih (by omega : c.retry.maxRetries + 2 ≤ _) (by omega : _ ≤ c.retry.maxRetries)
    refine ⟨_ :: ds, _ :: ss, ?_, .retried rfl got failed attempts budget matched follows, ?_⟩
    · simp [sent, Network.carry]
    · simpa using same

section Facts

variable {p : Policy} {jitter : Nat → Float} {timeout : Nat} {refuses : String → Prop} {n : Nat}
  {w : Span} {t : Nat}
  {ds : List Delivery} {ss : List Span} {t' : Nat} {r : Except ClientError Http.Response}

theorem Follows.length_pos (h : Follows p jitter timeout refuses n w t ds ss t' r) : 0 < ds.length := by
  cases h <;> simp

theorem Follows.sends_le (h : Follows p jitter timeout refuses n w t ds ss t' r) (hn : n ≤ p.maxRetries) :
    n + ds.length ≤ p.maxRetries + 1 := by
  induction h with
  | broken | succeeded | rejected | declined | halted => simp only [List.length_singleton]; omega
  | retried _ _ _ attempts _ _ _ ih =>
    have rest := ih (by omega)
    simp only [List.length_cons]
    omega

theorem Follows.sleeps_between (h : Follows p jitter timeout refuses n w t ds ss t' r) :
    ss.length + 1 = ds.length ∨ ss.length = ds.length ∧ ∃ m, refuses m ∧ r = .error (.hook m) := by
  induction h with
  | broken | succeeded | rejected | declined => exact .inl rfl
  | halted _ _ _ _ _ _ hook => exact .inr ⟨rfl, _, hook, rfl⟩
  | retried _ _ _ _ _ _ _ ih =>
    rcases ih with between | ⟨same, refused⟩
    · exact .inl (by simp [between])
    · exact .inr ⟨by simp [same], refused⟩

theorem Follows.first_sent (h : Follows p jitter timeout refuses n w t ds ss t' r) :
    ∀ d, ds[0]? = some d → d.sentAt = t := by
  cases h <;> simp_all

theorem Follows.next_sent (h : Follows p jitter timeout refuses n w t ds ss t' r) :
    ∀ k d d' s, ds[k]? = some d → ds[k + 1]? = some d' → ss[k]? = some s →
      d'.sentAt = d.sentAt + d.elapsed timeout + sleepMillis s := by
  induction h with
  | broken | succeeded | rejected | declined | halted => intro k d d' s _ later _; simp at later
  | @retried n w t d resp e cond wait ds ss t' r sent _ _ _ _ _ rest ih =>
    intro k d₀ d' s here later slept
    cases k with
    | zero =>
      simp only [List.getElem?_cons_zero, Option.some.injEq, Nat.zero_add,
        List.getElem?_cons_succ] at here later slept
      subst here slept
      rw [rest.first_sent d' later, sent]
    | succ k => exact ih k d₀ d' s (by simpa using here) (by simpa using later) (by simpa using slept)

theorem Follows.ends_at (h : Follows p jitter timeout refuses n w t ds ss t' r) :
    t' = t + (ds.map (·.elapsed timeout)).sum + (ss.map sleepMillis).sum := by
  -- rewriting, not simp: a definitional step through `sleepMillis` sends the kernel into `Nat.div`
  induction h with
  | broken | succeeded | rejected | declined =>
    rw [List.map_singleton, List.sum_singleton, List.map_nil, List.sum_nil, Nat.add_zero]
  | halted =>
    rw [List.map_singleton, List.sum_singleton, List.map_singleton, List.sum_singleton]
  | retried _ _ _ _ _ _ _ ih =>
    simp only [List.map_cons, List.sum_cons]
    omega

theorem Follows.sleep_eq (h : Follows p jitter timeout refuses n w t ds ss t' r) :
    ∀ k s, ss[k]? = some s → ∃ d resp e cond wait, ds[k]? = some d ∧
      d.received timeout = .ok resp ∧ classify resp = some e ∧
      p.shouldRetry (n + k) (.ofFailure resp e) (jitter (n + k)) = .retry cond wait ∧
      s.nanos = min wait.nanos (p.maxWait.nanos - (w.nanos + ((ss.take k).map (·.nanos)).sum)) := by
  induction h with
  | broken | succeeded | rejected | declined => intro k s slept; simp at slept
  | halted _ got failed _ _ matched _ =>
    intro k s slept
    cases k with
    | zero =>
      simp only [List.getElem?_cons_zero, Option.some.injEq] at slept
      subst slept
      exact ⟨_, _, _, _, _, rfl, got, failed, matched, by simp⟩
    | succ k => simp at slept
  | retried _ got failed _ _ matched _ ih =>
    intro k s slept
    cases k with
    | zero =>
      simp only [List.getElem?_cons_zero, Option.some.injEq] at slept
      subst slept
      exact ⟨_, _, _, _, _, rfl, got, failed, matched, by simp⟩
    | succ k =>
      obtain ⟨d, resp, e, cond, wait, here, got', failed', matched', eq⟩ :=
        ih k s (by simpa using slept)
      refine ⟨d, resp, e, cond, wait, by simpa using here, got', failed', ?_, ?_⟩
      · rw [← Nat.add_assoc, Nat.add_right_comm]
        exact matched'
      · rw [eq]; simp only [Span.add_nanos, List.take_succ_cons, List.map_cons, List.sum_cons]
        congr 2; omega

theorem Follows.slept_le (h : Follows p jitter timeout refuses n w t ds ss t' r)
    (hw : w.nanos ≤ p.maxWait.nanos) : w.nanos + (ss.map (·.nanos)).sum ≤ p.maxWait.nanos := by
  induction h with
  | broken | succeeded | rejected | declined => simpa using hw
  | halted _ _ _ _ budget =>
    rw [Span.lt_def] at budget
    simp only [List.map_cons, List.map_nil, List.sum_cons, List.sum_nil, Span.min_nanos,
      Span.sub_nanos]
    omega
  | retried _ _ _ _ budget _ _ ih =>
    rw [Span.lt_def] at budget
    have rest := ih (by simp only [Span.add_nanos, Span.min_nanos, Span.sub_nanos]; omega)
    simp only [Span.add_nanos, Span.min_nanos, Span.sub_nanos] at rest
    simp only [List.map_cons, List.sum_cons, Span.min_nanos, Span.sub_nanos]
    omega

theorem Follows.success_ends (h : Follows p jitter timeout refuses n w t ds ss t' r) :
    ∀ k d resp, ds[k]? = some d → d.received timeout = .ok resp → classify resp = none →
      k + 1 = ds.length ∧ (r = .ok resp ∨ ∃ m, refuses m ∧ r = .error (.hook m)) := by
  induction h with
  | broken _ got =>
    intro k d resp here got' _
    rcases k with _ | k <;> simp at here
    subst here; simp [got] at got'
  | succeeded _ got _ =>
    intro k d resp here got' _
    rcases k with _ | k <;> simp at here
    subst here; rw [got] at got'; cases got'
    exact ⟨rfl, .inl rfl⟩
  | rejected _ _ hook =>
    intro k d resp here _ _
    rcases k with _ | k <;> simp at here
    exact ⟨rfl, .inr ⟨_, hook, rfl⟩⟩
  | declined _ got failed _ | halted _ got failed =>
    intro k d resp here got' ok
    rcases k with _ | k <;> simp at here
    subst here; rw [got] at got'; cases got'
    rw [failed] at ok; cases ok
  | retried _ got failed _ _ _ _ ih =>
    intro k d resp here got' ok
    cases k with
    | zero =>
      simp only [List.getElem?_cons_zero, Option.some.injEq] at here
      subst here; rw [got] at got'; cases got'
      rw [failed] at ok; cases ok
    | succ k =>
      obtain ⟨last, ending⟩ := ih k d resp (by simpa using here) got' ok
      exact ⟨by simp [last], ending⟩

theorem Follows.failure_ends (h : Follows p jitter timeout refuses n w t ds ss t' r) :
    ∀ k d f, ds[k]? = some d → d.received timeout = .error f →
      k + 1 = ds.length ∧ ss.length = k ∧ r = .error (.transport f) := by
  induction h with
  | broken _ got =>
    intro k d f here got'
    rcases k with _ | k <;> simp at here
    subst here; rw [got] at got'; cases got'
    exact ⟨rfl, rfl, rfl⟩
  | succeeded _ got | rejected _ got | declined _ got | halted _ got =>
    intro k d f here got'
    rcases k with _ | k <;> simp at here
    subst here; rw [got] at got'; cases got'
  | retried _ got _ _ _ _ _ ih =>
    intro k d f here got'
    cases k with
    | zero =>
      simp only [List.getElem?_cons_zero, Option.some.injEq] at here
      subst here; rw [got] at got'; cases got'
    | succ k =>
      obtain ⟨last, slept, ending⟩ := ih k d f (by simpa using here) got'
      exact ⟨by simp [last], by simp [slept], ending⟩

theorem Follows.failed_ends (h : Follows p jitter timeout refuses n w t ds ss t' r) :
    ∀ d resp e, ds.getLast? = some d → d.received timeout = .ok resp → classify resp = some e →
      (Declines p (n + ds.length - 1) (w.nanos + (ss.map (·.nanos)).sum) (.ofFailure resp e)
          (jitter (n + ds.length - 1)) ∧
        r = .error (.api e)) ∨ ∃ m, refuses m ∧ r = .error (.hook m) := by
  induction h with
  | broken _ got =>
    intro d resp e here got' _
    simp only [List.getLast?_singleton, Option.some.injEq] at here
    subst here; rw [got] at got'; cases got'
  | succeeded _ got ok =>
    intro d resp e here got' failed
    simp only [List.getLast?_singleton, Option.some.injEq] at here
    subst here; rw [got] at got'; cases got'
    rw [ok] at failed; cases failed
  | rejected _ _ hook | halted _ _ _ _ _ _ hook => intro _ _ _ _ _ _; exact .inr ⟨_, hook, rfl⟩
  | declined _ got failed stop =>
    intro d resp e here got' failed'
    simp only [List.getLast?_singleton, Option.some.injEq] at here
    subst here; rw [got] at got'; cases got'
    rw [failed] at failed'; cases failed'
    exact .inl ⟨by simpa using stop, rfl⟩
  | @retried n w t d resp e cond wait ds ss t' r _ _ _ _ _ _ rest ih =>
    intro d' resp' e' here got' failed'
    have nonempty := rest.length_pos
    rw [List.getLast?_cons_of_ne_nil (List.ne_nil_of_length_pos nonempty)] at here
    rcases ih d' resp' e' here got' failed' with ⟨stop, ending⟩ | refused
    · refine .inl ⟨?_, ending⟩
      have index : n + (ds.length + 1) - 1 = n + 1 + ds.length - 1 := by omega
      simp only [List.length_cons, List.map_cons, List.sum_cons, index]
      simpa only [Span.add_nanos, Nat.add_assoc] using stop
    · exact .inr refused

end Facts

/-- What the retry rules ask of a call that sent `ds` and slept `ss`, ending with `r`. -/
structure RetryContract (p : Policy) (jitter : Nat → Float) (timeout : Nat) (refuses : String → Prop) (t : Nat)
    (ds : List Delivery) (ss : List Span) (t' : Nat) (r : Except ClientError Http.Response) :
    Prop where
  /-- At most one send more than the retries allowed. -/
  sends_le : ds.length ≤ p.maxRetries + 1
  /-- A sleep follows every send but the last, and the last only if the hooks refuse the retry. -/
  sleeps_between :
    ss.length + 1 = ds.length ∨ ss.length = ds.length ∧ ∃ m, refuses m ∧ r = .error (.hook m)
  /-- The first send leaves at `t`, -/
  first_sent : ∀ d, ds[0]? = some d → d.sentAt = t
  /-- each later one when the answer before it and the sleep after that are over, -/
  next_sent : ∀ k d d' s, ds[k]? = some d → ds[k + 1]? = some d' → ss[k]? = some s →
    d'.sentAt = d.sentAt + d.elapsed timeout + sleepMillis s
  /-- and the call ends once all its answers and sleeps are over. -/
  ends_at : t' = t + (ds.map (·.elapsed timeout)).sum + (ss.map sleepMillis).sum
  /-- The `k`-th sleep is the matching condition's wait, cut to what the budget has left. -/
  sleep_eq : ∀ k s, ss[k]? = some s → ∃ d resp e cond wait, ds[k]? = some d ∧
    d.received timeout = .ok resp ∧ classify resp = some e ∧
    p.shouldRetry k (.ofFailure resp e) (jitter k) = .retry cond wait ∧
    s.nanos = min wait.nanos (p.maxWait.nanos - ((ss.take k).map (·.nanos)).sum)
  /-- The sleeps together stay within the budget. -/
  slept_le : (ss.map (·.nanos)).sum ≤ p.maxWait.nanos
  /-- A 2xx response is the last one, and the call's answer unless a hook refuses it. -/
  success_ends : ∀ k d resp, ds[k]? = some d → d.received timeout = .ok resp →
    classify resp = none → k + 1 = ds.length ∧ (r = .ok resp ∨ ∃ m, refuses m ∧ r = .error (.hook m))
  /-- A transport failure is the last answer, with no sleep after it, and the call's error. -/
  failure_ends : ∀ k d f, ds[k]? = some d → d.received timeout = .error f →
    k + 1 = ds.length ∧ ss.length = k ∧ r = .error (.transport f)
  /-- A last failed response was declined, and its error is the call's, unless a hook refused. -/
  failed_ends : ∀ d resp e, ds.getLast? = some d → d.received timeout = .ok resp →
    classify resp = some e →
    (Declines p (ds.length - 1) (ss.map (·.nanos)).sum (.ofFailure resp e) (jitter (ds.length - 1)) ∧
        r = .error (.api e)) ∨
      ∃ m, refuses m ∧ r = .error (.hook m)

theorem Follows.contract {p : Policy} {jitter : Nat → Float} {timeout : Nat} {refuses : String → Prop}
    {t : Nat} {ds : List Delivery} {ss : List Span} {t' : Nat} {r : Except ClientError Http.Response}
    (h : Follows p jitter timeout refuses 0 ⟨0⟩ t ds ss t' r) :
    RetryContract p jitter timeout refuses t ds ss t' r where
  sends_le := by simpa using h.sends_le (Nat.zero_le _)
  sleeps_between := h.sleeps_between
  first_sent := h.first_sent
  next_sent := h.next_sent
  ends_at := h.ends_at
  sleep_eq := by
    -- from attempt 0 with nothing slept, the attempt is `k` and the budget left is the whole one
    intro k s slept
    obtain ⟨d, resp, e, cond, wait, here, got, failed, matched, cut⟩ := h.sleep_eq k s slept
    exact ⟨d, resp, e, cond, wait, here, got, failed, by simpa only [Nat.zero_add] using matched,
      by simpa only [Nat.zero_add] using cut⟩
  slept_le := by simpa using h.slept_le (Nat.zero_le _)
  success_ends := h.success_ends
  failure_ends := h.failure_ends
  failed_ends := by simpa using h.failed_ends

/-- Every call ends before sending and without sleeping, or keeps `RetryContract`. -/
theorem execute_keeps_retry_contract (c : Client) (req : ApiRequest) :
    let out := Id.run ((Client.execute req).run.run c)
    ∃ ds ss, out.2.network.sent = c.network.sent ++ ds ∧
      (ds = [] ∧ ss = [] ∧ out.2.clock = c.clock ∨
        RetryContract c.retry c.jitter c.timeout (Refuses c) c.clock ds ss out.2.clock out.1) := by
  intro out
  have ran : Id.run ((Client.execute req).run.run c) = out := rfl
  clear_value out
  obtain ⟨r, c'⟩ := out
  rcases execute_cases req c c' r ran with quiet | ⟨url, key, headers, o, c₁, quiet, run⟩
  · exact ⟨[], [], by simp [quiet.sent], .inl ⟨rfl, rfl, quiet.clock⟩⟩
  · have retry : c₁.retry = c.retry := congrArg (·.1) quiet.setup
    have timeout : c₁.timeout = c.timeout := congrArg (·.2.1) quiet.setup
    have jitter : c₁.jitter = c.jitter := congrArg (·.2.2.2.2.2.2) quiet.setup
    have refuses : Refuses c₁ = Refuses c := by
      have before : c₁.before = c.before := congrArg (·.2.2.1) quiet.setup
      have after : c₁.after = c.after := congrArg (·.2.2.2.1) quiet.setup
      funext m; simp only [Refuses, before, after]
    obtain ⟨ds, ss, sent, follows, _⟩ :=
      attempts_follow url key req headers _ 0 ⟨0⟩ o c₁ c' r (by rw [retry]; omega)
        (Nat.zero_le _) run
    rw [retry, jitter, timeout, refuses, quiet.clock] at follows
    exact ⟨ds, ss, by rw [sent, quiet.sent], .inr follows.contract⟩

end Pipeline

end CloudApi
