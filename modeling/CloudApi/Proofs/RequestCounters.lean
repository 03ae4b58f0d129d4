import CloudApi.Proofs.HookPasses

/-!
# Request counters

A call goes one of the courses `Went` lists, and the counters move by `Course.count`
(`exec_went`). Along a session the requests are the successes and failures, the retries the
sleeps and the cache hits the calls the cache answered (`counters_follow_courses`).
-/

namespace CloudApi

namespace Log.Metrics

theorem recordRetry_iterate (k : Nat) (m : Metrics) :
    recordRetry^[k] m = { m with retries := m.retries + k } := by
  induction k generalizing m with
  | zero => rfl
  | succ k ih =>
    rw [Function.iterate_succ_apply, ih]
    simp only [recordRetry, Nat.add_assoc, Nat.add_comm 1 k]

end Log.Metrics

/-- How a call went, as the request counters tell it. -/
inductive Course where
  /-- The address or the headers could not be built. -/
  | unsent
  /-- The cache answered. -/
  | cached
  /-- The call got past its address, cache and headers, slept `sleeps` times and returned
  a response when `ok`. -/
  | sent (sleeps : Nat) (ok : Bool)
  deriving DecidableEq

namespace Course

/-- The counters after a call of this course. -/
def count : Course → Log.Metrics → Log.Metrics
  | .unsent, m => m
  | .cached, m => m.recordCacheHit
  | .sent k ok, m =>
    let slept := Log.Metrics.recordRetry^[k] m
    if ok then slept.recordSuccess else slept.recordFailure

/-- Whether the call was sent and returned a response. -/
def succeeded : Course → Bool
  | .sent _ ok => ok
  | _ => false

/-- Whether the call was sent and returned an error. -/
def failed : Course → Bool
  | .sent _ ok => !ok
  | _ => false

/-- The sleeps of the call before retries. -/
def sleeps : Course → Nat
  | .sent k _ => k
  | _ => 0

/-- The counters after calls of the courses `ks`, in order. -/
def tally (ks : List Course) (m : Log.Metrics) : Log.Metrics := ks.foldl (fun m k => k.count m) m

theorem tally_cons (k : Course) (ks : List Course) (m : Log.Metrics) :
    tally (k :: ks) m = tally ks (k.count m) :=
  rfl

theorem count_sent_succ (k : Nat) (ok : Bool) (m : Log.Metrics) :
    (sent k ok).count m.recordRetry = (sent (k + 1) ok).count m :=
  rfl

theorem count_fields (k : Course) (m : Log.Metrics) :
    (k.count m).total = m.total + (if k.succeeded then 1 else 0) + (if k.failed then 1 else 0) ∧
    (k.count m).successful = m.successful + (if k.succeeded then 1 else 0) ∧
    (k.count m).failed = m.failed + (if k.failed then 1 else 0) ∧
    (k.count m).retries = m.retries + k.sleeps ∧
    (k.count m).cacheHits = m.cacheHits + (if k == .cached then 1 else 0) := by
  cases k with
  | unsent => simp [count, succeeded, failed, sleeps]
  | cached => simp [count, succeeded, failed, sleeps, Log.Metrics.recordCacheHit]
  | sent n ok =>
    cases ok <;> simp [count, succeeded, failed, sleeps, Log.Metrics.recordRetry_iterate,
      Log.Metrics.recordSuccess, Log.Metrics.recordFailure]

theorem tally_fields (ks : List Course) (m : Log.Metrics) :
    (tally ks m).total = m.total + ks.countP succeeded + ks.countP failed ∧
    (tally ks m).successful = m.successful + ks.countP succeeded ∧
    (tally ks m).failed = m.failed + ks.countP failed ∧
    (tally ks m).retries = m.retries + (ks.map sleeps).sum ∧
    (tally ks m).cacheHits = m.cacheHits + ks.count .cached := by
  induction ks generalizing m with
  | nil => simp [tally]
  | cons k ks ih =>
    obtain ⟨total, successful, failed, retries, hits⟩ := ih (k.count m)
    obtain ⟨total₁, successful₁, failed₁, retries₁, hits₁⟩ := count_fields k m
    rw [tally_cons, List.countP_cons, List.countP_cons, List.map_cons, List.sum_cons, List.count_cons]
    omega

end Course

/-- The request `o` sent at instant `t`, as the network carries it. -/
def Delivery.sending (wire : HookRequest → HookRequest) (send : HookRequest → Nat → Exchange)
    (t : Nat) (o : HookRequest) : Delivery :=
  ⟨wire o, t, send (wire o) t⟩

namespace Pipeline

section Sleeps

variable (p : Retry.Policy) (jitter : Nat → Float) (timeout : Nat) (before : List BeforeHook)
  (after : List AfterHook)
  (wire : HookRequest → HookRequest) (send : HookRequest → Nat → Exchange)
  (fresh : Nat → HookRequest)

/-- `Sleeps p jitter timeout before after wire send fresh n w t o k r`: from attempt `n`, having
slept `w`, the attempts sleep `k` times and end with `r`. -/
inductive Sleeps : Nat → Span → Nat → HookRequest → Nat → Except ClientError Http.Response →
    Prop where
  | broken {n w t o f} (got : (Delivery.sending wire send t o).received timeout = .error f) :
      Sleeps n w t o 0 (.error (.transport f))
  | rejected {n w t o resp m} (got : (Delivery.sending wire send t o).received timeout = .ok resp)
      (stop : (runAfter after o resp).1 = .error m) :
      Sleeps n w t o 0 (.error (.hook m))
  | succeeded {n w t o resp} (got : (Delivery.sending wire send t o).received timeout = .ok resp)
      (pass : (runAfter after o resp).1 = .ok ()) (ok : classify resp = none) :
      Sleeps n w t o 0 (.ok resp)
  | declined {n w t o resp e} (got : (Delivery.sending wire send t o).received timeout = .ok resp)
      (pass : (runAfter after o resp).1 = .ok ()) (failed : classify resp = some e)
      (stop : p.nextRetry n w (.ofFailure resp e) (jitter n) = .stop) :
      Sleeps n w t o 0 (.error (.api e))
  | halted {n w t o resp e cond s m}
      (got : (Delivery.sending wire send t o).received timeout = .ok resp)
      (pass : (runAfter after o resp).1 = .ok ()) (failed : classify resp = some e)
      (grant : p.nextRetry n w (.ofFailure resp e) (jitter n) = .retry cond s)
      (stop : (runBefore before (fresh (n + 1))).1 = .error m) :
      Sleeps n w t o 1 (.error (.hook m))
  | retried {n w t o resp e cond s o' k r}
      (got : (Delivery.sending wire send t o).received timeout = .ok resp)
      (pass : (runAfter after o resp).1 = .ok ()) (failed : classify resp = some e)
      (grant : p.nextRetry n w (.ofFailure resp e) (jitter n) = .retry cond s)
      (next : (runBefore before (fresh (n + 1))).1 = .ok o')
      (rest : Sleeps (n + 1) (w + s)
        (t + (Delivery.sending wire send t o).elapsed timeout + sleepMillis s) o' k r) :
      Sleeps n w t o (k + 1) r

end Sleeps

theorem attempts_sleeps (url : Web.Url) (key : Option String) (req : ApiRequest)
    (headers : Http.Headers) (fuel : Nat) :
    ∀ (n : Nat) (w : Span) (o : HookRequest) (c c' : Client) (r : Except ClientError Http.Response),
      c.retry.maxRetries + 2 ≤ n + fuel → n ≤ c.retry.maxRetries →
      Id.run ((attempts url key req headers fuel n w o).run c) = (r, c') →
      ∃ k, Sleeps c.retry c.jitter c.timeout c.before c.after c.wire c.network.send
          (fun i => ⟨req.method, url, headers, req.body, i⟩) n w c.clock o k r ∧
        c'.metrics = (Course.sent k r.toBool).count c.metrics := by
  intro n w o c c' r hfuel hn run
  have runs := attempts_runs url key req headers run
  clear run
  -- the fuel outlasts the budget of retries, so it never runs out
  induction runs with
  | exhausted => omega
  | broken got => exact ⟨0, .broken got, rfl⟩
  | rejected got stop => exact ⟨0, .rejected got stop, rfl⟩
  | succeeded got pass ok => exact ⟨0, .succeeded got pass ok, rfl⟩
  | declined got pass failed stop => exact ⟨0, .declined got pass failed stop, rfl⟩
  | halted got pass failed grant stop => exact ⟨1, .halted got pass failed grant stop, rfl⟩
  | @retried fuel n w o c _ _ _ _ _ _ _ got pass failed grant next _ ih =>
    have more := (nextRetry_eq_retry grant).1
    obtain ⟨k, sleeps, counted⟩ :=
      ih (by omega : c.retry.maxRetries + 2 ≤ _) (by omega : _ ≤ c.retry.maxRetries)
    -- the sleep counted one retry before the rest of the attempts
    exact ⟨k + 1, .retried got pass failed grant next sleeps,
      counted.trans (Course.count_sent_succ k _ _)⟩

theorem Sleeps.of_quiet {c c₁ : Client} (quiet : Quiet c c₁) {fresh : Nat → HookRequest} {n : Nat}
    {w : Span} {o : HookRequest} {k : Nat} {r : Except ClientError Http.Response}
    (run : Sleeps c₁.retry c₁.jitter c₁.timeout c₁.before c₁.after c₁.wire c₁.network.send fresh n w
      c₁.clock o k r) :
    Sleeps c.retry c.jitter c.timeout c.before c.after c.wire c.network.send fresh n w c.clock o k r := by
  have same := quiet.setup
  simp only [setup, Prod.mk.injEq] at same
  obtain ⟨retry, timeout, before, after, agent, send, jitter⟩ := same
  rwa [retry, timeout, before, after, Client.wire_eq agent, send, jitter, quiet.clock] at run

theorem lookup_metrics (key : Option String) (c : Client) :
    (Id.run ((lookup key).run c)).2.metrics =
      if (Id.run ((lookup key).run c)).1.isSome then c.metrics.recordCacheHit else c.metrics := by
  cases key <;> rfl

end Pipeline

open Pipeline

/-- The cache holds no live answer for a call going to `url`. -/
def Misses (c : Client) (req : ApiRequest) (url : Web.Url) : Prop :=
  ∀ k, c.cacheKeyAt req url = some k → (c.cache.get? k c.clock).1 = none

theorem misses_of_lookup {c : Client} {req : ApiRequest} {url : Web.Url}
    (h : (Id.run ((lookup (c.cacheKeyAt req url)).run c)).1 = none) : Misses c req url := by
  intro k keyed
  rw [keyed] at h
  exact h

/-- `Went c req r k`: run on `c`, the call `req`, which answered `r`, went the course `k`. -/
inductive Went (c : Client) (req : ApiRequest) : Except ClientError Http.Response → Course → Prop where
  /-- The address does not resolve. -/
  | unaddressed {e} (bad : c.target req = .error e) : Went c req (.error e) .unsent
  /-- The cache holds a live answer under the call's key. -/
  | cached {url k body} (addressed : c.target req = .ok url) (keyed : c.cacheKeyAt req url = some k)
      (hit : (c.cache.get? k c.clock).1 = some body) :
      Went c req (.ok { status := 200, body }) .cached
  /-- The headers cannot be built. -/
  | unheaded {url e} (addressed : c.target req = .ok url) (miss : Misses c req url)
      (bad : c.requestHeaders req = .error e) : Went c req (.error e) .unsent
  /-- The hooks refuse the first attempt. -/
  | refused {url headers m} (addressed : c.target req = .ok url) (miss : Misses c req url)
      (built : c.requestHeaders req = .ok headers)
      (stop : (runBefore c.before ⟨req.method, url, headers, req.body, 0⟩).1 = .error m) :
      Went c req (.error (.hook m)) (.sent 0 false)
  /-- The attempts run, sleeping `k` times. -/
  | attempted {url headers o k r} (addressed : c.target req = .ok url) (miss : Misses c req url)
      (built : c.requestHeaders req = .ok headers)
      (pass : (runBefore c.before ⟨req.method, url, headers, req.body, 0⟩).1 = .ok o)
      (run : Sleeps c.retry c.jitter c.timeout c.before c.after c.wire c.network.send
        (fun i => ⟨req.method, url, headers, req.body, i⟩) 0 ⟨0⟩ c.clock o k r) :
      Went c req r (.sent k r.toBool)

theorem exec_went (c : Client) (req : ApiRequest) :
    ∃ k, Went c req (c.exec req).1 k ∧ (c.exec req).2.metrics = k.count c.metrics := by
  rcases exec_opening c req with ⟨e, bad, ran⟩ | ⟨url, addressed, opened⟩
  · rw [ran]
    exact ⟨.unsent, .unaddressed bad, rfl⟩
  · have quiet := lookup_quiet (c.cacheKeyAt req url) c
    have counted := lookup_metrics (c.cacheKeyAt req url) c
    rcases opened with ⟨body, hit, ran⟩ |
      ⟨miss, ⟨e, bad, ran⟩ | ⟨headers, built, c₁, hc₁, ⟨m, stop, ran⟩ | ⟨o, passed, ran⟩⟩⟩
    · obtain ⟨k, keyed, got⟩ := lookup_hit hit
      rw [ran]
      refine ⟨.cached, .cached addressed keyed got, ?_⟩
      rw [counted, hit]
      rfl
    · rw [ran]
      refine ⟨.unsent, .unheaded addressed (misses_of_lookup miss) bad, ?_⟩
      rw [counted, miss]
      rfl
    · rw [ran, hc₁]
      refine ⟨.sent 0 false, .refused addressed (misses_of_lookup miss) built stop, ?_⟩
      show (Id.run ((lookup (c.cacheKeyAt req url)).run c)).2.metrics.recordFailure = _
      rw [counted, miss]
      rfl
    · -- the attempts run from the looked-up client, whose setup and clock are the caller's
      have quiet₁ : Quiet c c₁ := by rw [hc₁]; exact quiet.withJournal _
      have metrics₁ : c₁.metrics = c.metrics := by rw [hc₁]; simp only [counted, miss]; rfl
      have retry : c₁.retry = c.retry := quiet₁.retry
      clear hc₁
      generalize out : c.exec req = result at ran
      obtain ⟨r, c'⟩ := result
      obtain ⟨k, sleeps, moved⟩ :=
        attempts_sleeps url _ req headers _ 0 ⟨0⟩ o c₁ c' r (by rw [retry]; omega)
          (Nat.zero_le _) ran.symm
      exact ⟨.sent k r.toBool, .attempted addressed (misses_of_lookup miss) built passed
        (sleeps.of_quiet quiet₁), by rw [moved, metrics₁]⟩

theorem Went.sent_of_built {c : Client} {req : ApiRequest} {r : Except ClientError Http.Response}
    {k : Course} (went : Went c req r k) {url : Web.Url} {headers : Http.Headers}
    (addressed : c.target req = .ok url) (miss : Misses c req url)
    (built : c.requestHeaders req = .ok headers) : ∃ n, k = .sent n r.toBool := by
  cases went with
  | unaddressed bad => rw [addressed] at bad; cases bad
  | cached addressed' keyed hit =>
    rw [addressed] at addressed'
    cases addressed'
    rw [miss _ keyed] at hit
    cases hit
  | unheaded _ _ bad => rw [built] at bad; cases bad
  | refused => exact ⟨0, rfl⟩
  | attempted => exact ⟨_, rfl⟩

namespace Session

theorem Op.apply_metrics (c : Client) {op : Op} (quiet : ∀ req, op ≠ .execute req) :
    (op.apply c).metrics = c.metrics := by
  cases op with
  | execute req => exact absurd rfl (quiet req)
  | useCache | clearCache | setCacheExpiration | invalidate | advance => rfl

/-- `Courses c ops ks`: run in turn from `c`, the calls of `ops` went the courses `ks`. -/
inductive Courses : Client → List Op → List Course → Prop where
  | nil (c : Client) : Courses c [] []
  | call {c req ops k ks} (went : Went c req (c.exec req).1 k)
      (rest : Courses (c.exec req).2 ops ks) : Courses c (.execute req :: ops) (k :: ks)
  | other {c op ops ks} (quiet : ∀ req, op ≠ .execute req) (rest : Courses (op.apply c) ops ks) :
      Courses c (op :: ops) ks

theorem run_cons (c : Client) (op : Op) (ops : List Op) : run c (op :: ops) = run (op.apply c) ops :=
  rfl

theorem run_tally (c : Client) (ops : List Op) :
    ∃ ks, Courses c ops ks ∧ (run c ops).metrics = Course.tally ks c.metrics := by
  induction ops generalizing c with
  | nil => exact ⟨[], .nil c, rfl⟩
  | cons op ops ih =>
    rw [run_cons]
    by_cases call : ∃ req, op = .execute req
    · obtain ⟨req, rfl⟩ := call
      obtain ⟨k, went, counted⟩ := exec_went c req
      obtain ⟨ks, courses, tallied⟩ := ih (c.exec req).2
      refine ⟨k :: ks, .call went courses, ?_⟩
      rw [Op.apply, tallied, Course.tally_cons, counted]
    · have quiet : ∀ req, op ≠ .execute req := fun req same => call ⟨req, same⟩
      obtain ⟨ks, courses, tallied⟩ := ih (op.apply c)
      exact ⟨ks, .other quiet courses, by rw [tallied, Op.apply_metrics c quiet]⟩

end Session

/-- Along every session from fresh counters the requests are the successes and failures, the
retries the sleeps before retries, and the cache hits the calls the cache answered. -/
theorem counters_follow_courses :
    (∀ (c : Client) (req : ApiRequest) (url : Web.Url) (headers : Http.Headers),
      c.target req = .ok url → Misses c req url → c.requestHeaders req = .ok headers →
      let m := (c.exec req).2.metrics
      m.total = c.metrics.total + 1 ∧
      (∀ resp, (c.exec req).1 = .ok resp →
        m.successful = c.metrics.successful + 1 ∧ m.failed = c.metrics.failed) ∧
      (∀ e, (c.exec req).1 = .error e →
        m.successful = c.metrics.successful ∧ m.failed = c.metrics.failed + 1)) ∧
    (∀ (c₀ : Client), c₀.metrics = {} → ∀ ops : List Session.Op, ∃ ks,
      Session.Courses c₀ ops ks ∧
      let m := (Session.run c₀ ops).metrics
      m.total = m.successful + m.failed ∧ m.successful = ks.countP Course.succeeded ∧
      m.failed = ks.countP Course.failed ∧ m.retries = (ks.map Course.sleeps).sum ∧
      m.cacheHits = ks.count .cached) := by
  refine ⟨fun c req url headers addressed miss built => ?_, fun c₀ fresh ops => ?_⟩
  · obtain ⟨k, went, counted⟩ := exec_went c req
    generalize c.exec req = out at went counted ⊢
    obtain ⟨r, c'⟩ := out
    obtain ⟨n, rfl⟩ := went.sent_of_built addressed miss built
    obtain ⟨total, successful, failed, -, -⟩ := Course.count_fields (.sent n r.toBool) c.metrics
    dsimp only
    rw [counted, total, successful, failed]
    -- the course is a success exactly when the call returned a response
    cases r with
    | ok resp => simp [Except.toBool, Course.succeeded, Course.failed]
    | error e => simp [Except.toBool, Course.succeeded, Course.failed]
  · obtain ⟨ks, courses, tallied⟩ := Session.run_tally c₀ ops
    obtain ⟨total, successful, failed, retries, hits⟩ := Course.tally_fields ks c₀.metrics
    refine ⟨ks, courses, ?_⟩
    dsimp only
    -- fresh counters start at zero
    have zero : ({} : Log.Metrics) = ⟨0, 0, 0, 0, 0⟩ := rfl
    rw [tallied, total, successful, failed, retries, hits, fresh, zero]
    simp only [Nat.zero_add, and_self]

theorem fetch_then_hit_counted :
    let c₀ : Client :=
      { base := { scheme := "http", host := some (.domain "api"), path := .segments ["v4", ""] },
        token := none, userAgent := "ua", timeout := 1000, retry := .disabled,
        cache := Http.Cache.empty 900000, logging := {}, pollInterval := 1000,
        network := { send := fun _ _ => { answer := .ok { status := 200, body := "[]".toUTF8 } } } }
    let read := (ApiRequest.get "regions").cached
    let ops := [Session.Op.execute read, .execute read]
    (∃ url headers, c₀.target read = .ok url ∧ Misses c₀ read url ∧
      c₀.requestHeaders read = .ok headers ∧ (c₀.exec read).2.metrics.total = 1) ∧
    c₀.metrics = {} ∧ ∃ ks, Session.Courses c₀ ops ks ∧
      (Session.run c₀ ops).metrics.total =
        (Session.run c₀ ops).metrics.successful + (Session.run c₀ ops).metrics.failed ∧
      (Session.run c₀ ops).metrics.cacheHits = ks.count .cached := by
  intro c₀ read ops
  have addressed : (c₀.target read).toBool = true := by decide +kernel
  have headed : (c₀.requestHeaders read).toBool = true := by decide +kernel
  cases target : c₀.target read with
  | error e => rw [target] at addressed; cases addressed
  | ok url =>
    cases built : c₀.requestHeaders read with
    | error e => rw [built] at headed; cases headed
    | ok headers =>
      -- the cache starts empty, so the first call misses it
      have miss : Misses c₀ read url := fun _ _ => rfl
      obtain ⟨total, -, -⟩ := counters_follow_courses.1 c₀ read url headers target miss built
      obtain ⟨ks, courses, sum, -, -, -, hits⟩ := counters_follow_courses.2 c₀ rfl ops
      exact ⟨⟨url, headers, rfl, miss, rfl, total⟩, rfl, ks, courses, sum, hits⟩

end CloudApi
