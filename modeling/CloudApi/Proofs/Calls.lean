import CloudApi.Client.Execute

/-!
# Running calls

A call either ends without touching the network or the clock, or hands its first attempt to
`Pipeline.attempts` (`execute_cases`). `Pipeline.Runs` says once what the attempts can do, and
the later modules read the schedule, hooks, counters and cache off it by induction.
-/

namespace CloudApi

theorem Call.run_bind {α β : Type} (x : Call α) (f : α → Call β) :
    (x >>= f).run = x.run >>= fun a => (f a).run := by
  funext c
  simp only [Call.run, bind, StateT.bind]
  -- the call either lands at once or waits, and either way the rest runs after it
  cases x.start c with
  | mk fl c' =>
    cases fl with
    | landed a => rfl
    | waiting rest => rfl

theorem Call.run_lift {α : Type} (x : ClientM α) : (Call.lift x).run = x := by
  simp [Call.run, Call.lift, Flight.finish]

theorem Call.run_wait {α : Type} (x : ClientM α) : (Call.wait x).run = x := by
  simp [Call.run, Call.wait, Flight.finish]

theorem Call.run_pure {α : Type} (a : α) : (pure a : Call α).run = pure a := rfl

namespace Delivery

/-- What the client got for a request: the network's answer, or a timeout. -/
def received (d : Delivery) (timeout : Nat) : Except TransportFault Http.Response :=
  if d.exchange.delay ≥ timeout then .error { timeout := true } else d.exchange.answer

/-- How long the client waited for a request's answer: its delay, cut to the timeout. -/
def elapsed (d : Delivery) (timeout : Nat) : Nat :=
  if d.exchange.delay ≥ timeout then timeout else d.exchange.delay

end Delivery

namespace Client

/-- A request run on a client to its end: its answer and the client after it. -/
def exec (c : Client) (req : ApiRequest) : Except ClientError Http.Response × Client :=
  Id.run ((execute req).run.run c)

/-- Where a request goes from `c`: its path resolved against the base, then its query. -/
def target (c : Client) (req : ApiRequest) : Except ClientError Web.Url :=
  (c.url req.path).map fun url => if req.query.isEmpty then url else url.appendPairs req.query

/-- The key a request going to `url` is cached under, if it is a cacheable read. -/
def cacheKeyAt (c : Client) (req : ApiRequest) (url : Web.Url) : Option String :=
  if req.method == "GET" && req.cacheable && c.cache.enabled then
    some (Http.cacheKey req.method url req.filter)
  else none

/-! The clients an attempt passes through. They are reducible, so that a client built by a step
of `Pipeline.attempts` unifies with them field by field and never through `Pipeline.sleepMillis`. -/

/-- The request `o` as the client sends it, with what the network makes of it. -/
@[reducible] def delivery (c : Client) (o : HookRequest) : Delivery :=
  ⟨c.wire o, c.clock, c.network.send (c.wire o) c.clock⟩

/-- The client once `o` is back, its clock moved by the wait for the answer. -/
@[reducible] def delivered (c : Client) (o : HookRequest) : Client :=
  { c with network := c.network.carry (c.delivery o),
           clock := c.clock + (c.delivery o).elapsed c.timeout }

/-- The client with what a pass of the hooks saw added to its journal. -/
@[reducible] def noting (c : Client) (seen : List Sighting) : Client :=
  { c with journal := c.journal ++ seen }

/-- The client once it has counted a retry and slept its wait. -/
@[reducible] def slept (c : Client) (s : Span) : Client :=
  { c with metrics := c.metrics.recordRetry, clock := c.clock + Pipeline.sleepMillis s }

/-- The client once it has counted a failed call. -/
@[reducible] def failing (c : Client) : Client := { c with metrics := c.metrics.recordFailure }

/-- The client once it has counted a success `resp` for `url` and cached its body. -/
@[reducible] def succeeding (c : Client) (key : Option String) (url : Web.Url)
    (resp : Http.Response) : Client :=
  { c with cache := match key with
             | some k => c.cache.insert k url.pathText resp.body c.clock
             | none => c.cache,
           metrics := c.metrics.recordSuccess }

end Client

namespace Retry

/-- What the policy is asked about a failed response: its status, headers and API error. -/
def Input.ofFailure (resp : Http.Response) (e : ApiError) : Input :=
  { status := resp.status, headers := resp.headers, error := some e }

end Retry

namespace Pipeline

theorem deliver_run (r : HookRequest) (c : Client) :
    (deliver r).run c =
      pure ((c.delivery r).received c.timeout,
        { c with network := c.network.carry (c.delivery r),
                 clock := c.clock + (c.delivery r).elapsed c.timeout }) := by
  by_cases slow : (c.network.send (c.wire r) c.clock).delay ≥ c.timeout
  · simp [deliver, Client.delivery, Delivery.received, Delivery.elapsed, slow]
  · simp [deliver, Client.delivery, Delivery.received, Delivery.elapsed, slow]

theorem hooksAfter_run (r : HookRequest) (resp : Http.Response) (c : Client) :
    (hooksAfter r resp).run c =
      pure ((runAfter c.after r resp).1,
        { c with journal := c.journal ++ (runAfter c.after r resp).2 }) :=
  rfl

theorem hooksBefore_run (r : HookRequest) (c : Client) :
    (hooksBefore r).run c =
      pure ((runBefore c.before r).1, { c with journal := c.journal ++ (runBefore c.before r).2 }) :=
  rfl

theorem fail_run {α : Type} (e : ClientError) (c : Client) :
    (fail e : ClientM (Except ClientError α)).run c =
      pure (.error e, { c with metrics := c.metrics.recordFailure }) :=
  rfl

/-- Some hook of the client refuses some request or response with message `m`. -/
def Refuses (c : Client) (m : String) : Prop :=
  (∃ h ∈ c.before, ∃ r, h.apply r = .error m) ∨ (∃ h ∈ c.after, ∃ r resp, h.apply r resp = .error m)

theorem runBefore_refuses {hs : List BeforeHook} {r : HookRequest} {m : String}
    (h : (runBefore hs r).1 = .error m) : ∃ hook ∈ hs, ∃ r, hook.apply r = .error m := by
  induction hs generalizing r with
  | nil => simp [runBefore] at h
  | cons hook rest ih =>
    simp only [runBefore] at h
    split at h
    · rename_i refused
      cases h
      exact ⟨hook, List.mem_cons_self, r, refused⟩
    · obtain ⟨refusing, mem, r', refused⟩ := ih h
      exact ⟨refusing, List.mem_cons_of_mem _ mem, r', refused⟩

theorem runAfter_refuses {hs : List AfterHook} {r : HookRequest} {resp : Http.Response} {m : String}
    (h : (runAfter hs r resp).1 = .error m) : ∃ hook ∈ hs, ∃ r resp, hook.apply r resp = .error m := by
  induction hs with
  | nil => simp [runAfter] at h
  | cons hook rest ih =>
    simp only [runAfter] at h
    split at h
    · rename_i refused
      cases h
      exact ⟨hook, List.mem_cons_self, r, resp, refused⟩
    · obtain ⟨refusing, mem, r', resp', refused⟩ := ih h
      exact ⟨refusing, List.mem_cons_of_mem _ mem, r', resp', refused⟩

/-- What the attempts of a call read of its client and never change. -/
def setup (c : Client) :
    Retry.Policy × Nat × List BeforeHook × List AfterHook × String × (HookRequest → Nat → Exchange) ×
      (Nat → Float) :=
  (c.retry, c.timeout, c.before, c.after, c.userAgent, c.network.send, c.jitter)

-- each unfolds `setup` first: comparing the two clients field by field would run into the
-- division of `sleepMillis`
@[simp] theorem setup_delivered (c : Client) (o : HookRequest) : setup (c.delivered o) = setup c := by
  unfold setup; rfl

@[simp] theorem setup_noting (c : Client) (seen : List Sighting) : setup (c.noting seen) = setup c := by
  unfold setup; rfl

@[simp] theorem setup_slept (c : Client) (s : Span) : setup (c.slept s) = setup c := by
  unfold setup; rfl

@[simp] theorem setup_failing (c : Client) : setup c.failing = setup c := by
  unfold setup; rfl

@[simp] theorem setup_succeeding (c : Client) (key : Option String) (url : Web.Url)
    (resp : Http.Response) : setup (c.succeeding key url resp) = setup c := by
  unfold setup; rfl

/-- `c'` has the setup of `c`, and nothing was sent and no time went by between them. -/
structure Quiet (c c' : Client) : Prop where
  setup : setup c' = setup c
  clock : c'.clock = c.clock
  sent : c'.network.sent = c.network.sent

theorem Quiet.refl (c : Client) : Quiet c c := ⟨rfl, rfl, rfl⟩

theorem Quiet.retry {c c' : Client} (h : Quiet c c') : c'.retry = c.retry :=
  congrArg (·.1) h.setup

theorem Quiet.withJournal {c c' : Client} (h : Quiet c c') (j : List Sighting) :
    Quiet c { c' with journal := j } :=
  ⟨h.setup, h.clock, h.sent⟩

theorem lookup_quiet (key : Option String) (c : Client) :
    Quiet c (Id.run ((lookup key).run c)).2 := by
  cases key with
  | none => exact Quiet.refl c
  | some k => exact ⟨rfl, rfl, rfl⟩

theorem exec_opening (c : Client) (req : ApiRequest) :
    (∃ e, c.target req = .error e ∧ c.exec req = (.error e, c)) ∨
    ∃ url, c.target req = .ok url ∧
      let looked := Id.run ((lookup (c.cacheKeyAt req url)).run c)
      (∃ body, looked.1 = some body ∧ c.exec req = (.ok { status := 200, body }, looked.2)) ∨
      looked.1 = none ∧
        ((∃ e, c.requestHeaders req = .error e ∧ c.exec req = (.error e, looked.2)) ∨
         ∃ headers, c.requestHeaders req = .ok headers ∧
           let first : HookRequest := ⟨req.method, url, headers, req.body, 0⟩
           ∃ c₁ : Client, c₁ = { looked.2 with journal := looked.2.journal ++ (runBefore c.before first).2 } ∧
           ((∃ m, (runBefore c.before first).1 = .error m ∧
               c.exec req = (.error (.hook m), { c₁ with metrics := c₁.metrics.recordFailure })) ∨
            ∃ o, (runBefore c.before first).1 = .ok o ∧
              c.exec req = Id.run ((attempts url (c.cacheKeyAt req url) req headers
                (c.retry.maxRetries + 2) 0 ⟨0⟩ o).run c₁))) := by
  unfold Client.exec
  simp only [Client.execute, Call.run_bind, Call.run_lift, StateT.run_bind, StateT.run_get,
    pure_bind]
  cases resolved : c.url req.path with
  | error e => exact .inl ⟨e, by simp only [Client.target, resolved]; rfl, rfl⟩
  | ok u =>
    refine .inr ⟨_, by simp only [Client.target, resolved]; rfl, ?_⟩
    simp only [Client.cacheKeyAt]
    generalize (if req.query.isEmpty = true then u else u.appendPairs req.query) = url
    simp only [Call.run_bind, Call.run_lift, StateT.run_bind, Id.run_bind]
    cases looked : Id.run ((lookup (if (req.method == "GET" && req.cacheable && c.cache.enabled) = true
      then some (Http.cacheKey req.method url req.filter) else none)).run c) with
    | mk hit c₂ =>
    -- the lookup leaves the hooks alone, so the first pass runs the caller's hooks
    have hooks : c₂.before = c.before := by
      have quiet := lookup_quiet (if (req.method == "GET" && req.cacheable && c.cache.enabled) = true
        then some (Http.cacheKey req.method url req.filter) else none) c
      rw [looked] at quiet
      exact congrArg (·.2.2.1) quiet.setup
    cases hit with
    | some body => exact .inl ⟨body, rfl, by simp [Call.run_pure]⟩
    | none =>
      refine .inr ⟨rfl, ?_⟩
      cases headed : c.requestHeaders req with
      | error e => exact .inl ⟨e, rfl, by simp [Call.run_pure]⟩
      | ok headers =>
        refine .inr ⟨headers, rfl, _, rfl, ?_⟩
        simp only [Call.run_bind, Call.run_lift, StateT.run_bind, hooksBefore_run, hooks, pure_bind]
        cases passed : (runBefore c.before ⟨req.method, url, headers, req.body, 0⟩).1 with
        | error m => exact .inl ⟨m, rfl, by simp [Call.run_lift, fail_run]⟩
        | ok o =>
          refine .inr ⟨o, rfl, ?_⟩
          dsimp only
          split
          · simp [Call.run_lift]
          · simp [Call.run_wait]

theorem execute_cases (req : ApiRequest) (c c' : Client) (r : Except ClientError Http.Response)
    (run : Id.run ((Client.execute req).run.run c) = (r, c')) :
    Quiet c c' ∨
      ∃ url key headers o c₁, Quiet c c₁ ∧
        Id.run ((attempts url key req headers (c.retry.maxRetries + 2) 0 ⟨0⟩ o).run c₁) = (r, c') := by
  change c.exec req = (r, c') at run
  rcases exec_opening c req with ⟨e, -, ran⟩ | ⟨url, -, opened⟩
  · rw [ran] at run
    cases run
    exact .inl (Quiet.refl c)
  · -- every way out before the attempts leaves the looked-up client, less its counters and journal
    have quiet := lookup_quiet (c.cacheKeyAt req url) c
    rcases opened with ⟨body, -, ran⟩ |
      ⟨-, ⟨e, -, ran⟩ | ⟨headers, -, c₁, rfl, ⟨m, -, ran⟩ | ⟨o, -, ran⟩⟩⟩
    · rw [ran] at run
      cases run
      exact .inl quiet
    · rw [ran] at run
      cases run
      exact .inl quiet
    · rw [ran] at run
      cases run
      exact .inl ⟨quiet.setup, quiet.clock, quiet.sent⟩
    · rw [ran] at run
      exact .inr ⟨url, _, headers, o, _, quiet.withJournal _, run⟩

/-! ### The attempts of a call, one at a time -/

section Runs

variable (url : Web.Url) (key : Option String) (req : ApiRequest) (headers : Http.Headers)

/-- `Runs url key req headers fuel n w o c r c'`: the attempts from attempt `n`, having slept
`w`, run from client `c` and end with `r` at `c'`. -/
inductive Runs : Nat → Nat → Span → HookRequest → Client → Except ClientError Http.Response →
    Client → Prop where
  | exhausted {n w o c} : Runs 0 n w o c (.error (.transport {})) c.failing
  | broken {fuel n w o c f} (got : (c.delivery o).received c.timeout = .error f) :
      Runs (fuel + 1) n w o c (.error (.transport f)) (c.delivered o).failing
  | rejected {fuel n w o c resp m} (got : (c.delivery o).received c.timeout = .ok resp)
      (stop : (runAfter c.after o resp).1 = .error m) :
      Runs (fuel + 1) n w o c (.error (.hook m))
        ((c.delivered o).noting (runAfter c.after o resp).2).failing
  | succeeded {fuel n w o c resp} (got : (c.delivery o).received c.timeout = .ok resp)
      (pass : (runAfter c.after o resp).1 = .ok ()) (ok : classify resp = none) :
      Runs (fuel + 1) n w o c (.ok resp)
        (((c.delivered o).noting (runAfter c.after o resp).2).succeeding key url resp)
  | declined {fuel n w o c resp e} (got : (c.delivery o).received c.timeout = .ok resp)
      (pass : (runAfter c.after o resp).1 = .ok ()) (failed : classify resp = some e)
      (stop : c.retry.nextRetry n w (.ofFailure resp e) (c.jitter n) = .stop) :
      Runs (fuel + 1) n w o c (.error (.api e))
        ((c.delivered o).noting (runAfter c.after o resp).2).failing
  | halted {fuel n w o c resp e cond s m} (got : (c.delivery o).received c.timeout = .ok resp)
      (pass : (runAfter c.after o resp).1 = .ok ()) (failed : classify resp = some e)
      (grant : c.retry.nextRetry n w (.ofFailure resp e) (c.jitter n) = .retry cond s)
      (stop : (runBefore c.before ⟨req.method, url, headers, req.body, n + 1⟩).1 = .error m) :
      Runs (fuel + 1) n w o c (.error (.hook m))
        ((((c.delivered o).noting (runAfter c.after o resp).2).slept s).noting
          (runBefore c.before ⟨req.method, url, headers, req.body, n + 1⟩).2).failing
  | retried {fuel n w o c resp e cond s o' r c'}
      (got : (c.delivery o).received c.timeout = .ok resp)
      (pass : (runAfter c.after o resp).1 = .ok ()) (failed : classify resp = some e)
      (grant : c.retry.nextRetry n w (.ofFailure resp e) (c.jitter n) = .retry cond s)
      (next : (runBefore c.before ⟨req.method, url, headers, req.body, n + 1⟩).1 = .ok o')
      (rest : Runs fuel (n + 1) (w + s) o'
        ((((c.delivered o).noting (runAfter c.after o resp).2).slept s).noting
          (runBefore c.before ⟨req.method, url, headers, req.body, n + 1⟩).2) r c') :
      Runs (fuel + 1) n w o c r c'

theorem attempts_runs {fuel n : Nat} {w : Span} {o : HookRequest} {c c' : Client}
    {r : Except ClientError Http.Response}
    (run : Id.run ((attempts url key req headers fuel n w o).run c) = (r, c')) :
    Runs url key req headers fuel n w o c r c' := by
  induction fuel generalizing n w o c with
  | zero =>
    simp only [attempts, fail_run, Id.run_pure, Prod.mk.injEq] at run
    obtain ⟨rfl, rfl⟩ := run
    exact .exhausted
  | succ fuel ih =>
    -- the cases follow the attempt's matches: the answer, the hooks after it, the verdict of
    -- `classify`, the policy's decision and the hooks before the next attempt
    simp only [attempts, StateT.run_bind, deliver_run, pure_bind] at run
    cases got : (c.delivery o).received c.timeout with
    | error f =>
      simp only [got, fail_run, Id.run_pure, Prod.mk.injEq] at run
      obtain ⟨rfl, rfl⟩ := run
      exact .broken got
    | ok resp =>
      simp only [got, StateT.run_bind, hooksAfter_run, pure_bind] at run
      cases after : (runAfter c.after o resp).1 with
      | error m =>
        simp only [after, fail_run, Id.run_pure, Prod.mk.injEq] at run
        obtain ⟨rfl, rfl⟩ := run
        exact .rejected got after
      | ok u =>
        simp only [after] at run
        cases judged : classify resp with
        | none =>
          simp only [judged, StateT.run_bind, StateT.run_modify, pure_bind, StateT.run_pure,
            Id.run_pure, Prod.mk.injEq] at run
          obtain ⟨rfl, rfl⟩ := run
          exact .succeeded got after judged
        | some e =>
          simp only [judged, StateT.run_bind, StateT.run_get, pure_bind] at run
          cases decided : c.retry.nextRetry n w (.ofFailure resp e) (c.jitter n) with
          | stop =>
            simp only [Retry.Input.ofFailure] at decided
            simp only [decided, fail_run, Id.run_pure, Prod.mk.injEq] at run
            obtain ⟨rfl, rfl⟩ := run
            exact .declined got after judged decided
          | retry cond s =>
            simp only [Retry.Input.ofFailure] at decided
            simp only [decided, StateT.run_bind, StateT.run_modify, pure_bind, hooksBefore_run]
              at run
            cases refusal : (runBefore c.before ⟨req.method, url, headers, req.body, n + 1⟩).1 with
            | error m =>
              simp only [refusal, fail_run, Id.run_pure, Prod.mk.injEq] at run
              obtain ⟨rfl, rfl⟩ := run
              exact .halted got after judged decided refusal
            | ok next =>
              simp only [refusal] at run
              exact .retried got after judged decided refusal (ih run)

end Runs

end Pipeline

end CloudApi
