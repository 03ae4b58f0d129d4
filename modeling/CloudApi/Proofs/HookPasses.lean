import CloudApi.Proofs.CacheHistory

/-!
# Hook passes

`Passes` relates a call's attempts to the requests they send and what the recording hooks see.
Over every call each request sent is one pass over a fresh request, the journal holds one pass
per attempt and response, and a refusal ends the call (`hooks_pass_once_per_attempt`).
-/

namespace CloudApi

open Pipeline

theorem runBefore_eq_error {hs : List BeforeHook} {q : HookRequest} {m : String}
    (h : (runBefore hs q).1 = .error m) :
    ∃ pre hook post q', hs = pre ++ hook :: post ∧
      runBefore pre q = (.ok q', (runBefore hs q).2) ∧ hook.apply q' = .error m := by
  induction hs generalizing q with
  | nil => cases h
  | cons hook rest ih =>
    cases applied : hook.apply q with
    | error m' =>
      simp only [runBefore, applied] at h ⊢
      cases h
      exact ⟨[], hook, rest, q, rfl, rfl, applied⟩
    | ok passed =>
      obtain ⟨q₁, seen⟩ := passed
      simp only [runBefore, applied] at h ⊢
      obtain ⟨pre, refusing, post, q', split, ran, refused⟩ := ih h
      refine ⟨hook :: pre, refusing, post, q', by rw [split]; rfl, ?_, refused⟩
      simp [runBefore, applied, ran]

theorem runAfter_eq_error {hs : List AfterHook} {q : HookRequest} {resp : Http.Response}
    {m : String} (h : (runAfter hs q resp).1 = .error m) :
    ∃ pre hook post, hs = pre ++ hook :: post ∧
      runAfter pre q resp = (.ok (), (runAfter hs q resp).2) ∧ hook.apply q resp = .error m := by
  induction hs with
  | nil => cases h
  | cons hook rest ih =>
    cases applied : hook.apply q resp with
    | error m' =>
      simp only [runAfter, applied] at h ⊢
      cases h
      exact ⟨[], hook, rest, rfl, rfl, applied⟩
    | ok seen =>
      simp only [runAfter, applied] at h ⊢
      obtain ⟨pre, refusing, post, split, ran, refused⟩ := ih h
      refine ⟨hook :: pre, refusing, post, by rw [split]; rfl, ?_, refused⟩
      simp [runAfter, applied, ran]

section Passes

variable (before : List BeforeHook) (after : List AfterHook) (timeout : Nat)
  (wire : HookRequest → HookRequest) (fresh : Nat → HookRequest)

/-- `Passes before after timeout wire fresh n o ds j r`: from attempt `n` the attempts send `ds`,
the recording hooks see `j` and the call ends with `r`. -/
inductive Passes : Nat → HookRequest → List Delivery → List Sighting →
    Except ClientError Http.Response → Prop where
  | broken {n o d f} (sent : d.request = wire o) (got : d.received timeout = .error f) :
      Passes n o [d] [] (.error (.transport f))
  | rejected {n o d resp m} (sent : d.request = wire o) (got : d.received timeout = .ok resp)
      (stop : (runAfter after o resp).1 = .error m) :
      Passes n o [d] (runAfter after o resp).2 (.error (.hook m))
  | answered {n o d resp r} (sent : d.request = wire o) (got : d.received timeout = .ok resp)
      (pass : (runAfter after o resp).1 = .ok ())
      (final : r = .ok resp ∨ ∃ e, r = .error (.api e)) :
      Passes n o [d] (runAfter after o resp).2 r
  | halted {n o d resp m} (sent : d.request = wire o) (got : d.received timeout = .ok resp)
      (pass : (runAfter after o resp).1 = .ok ())
      (stop : (runBefore before (fresh (n + 1))).1 = .error m) :
      Passes n o [d] ((runAfter after o resp).2 ++ (runBefore before (fresh (n + 1))).2)
        (.error (.hook m))
  | retried {n o d resp o' ds j r} (sent : d.request = wire o)
      (got : d.received timeout = .ok resp) (pass : (runAfter after o resp).1 = .ok ())
      (next : (runBefore before (fresh (n + 1))).1 = .ok o')
      (rest : Passes (n + 1) o' ds j r) :
      Passes n o (d :: ds)
        ((runAfter after o resp).2 ++ (runBefore before (fresh (n + 1))).2 ++ j) r

/-- One pass of the hooks before each attempt from `k` and one after each response. -/
def callLog : Nat → List Delivery → List Sighting
  | _, [] => []
  | k, d :: ds =>
    (runBefore before (fresh k)).2 ++
      (match (runBefore before (fresh k)).1, d.received timeout with
        | .ok o, .ok resp => (runAfter after o resp).2
        | _, _ => []) ++
      callLog (k + 1) ds

end Passes

theorem attempts_passes (url : Web.Url) (key : Option String) (req : ApiRequest)
    (headers : Http.Headers) (fuel : Nat) :
    ∀ (n : Nat) (w : Span) (o : HookRequest) (c c' : Client) (r : Except ClientError Http.Response),
      c.retry.maxRetries + 2 ≤ n + fuel → n ≤ c.retry.maxRetries →
      Id.run ((attempts url key req headers fuel n w o).run c) = (r, c') →
      ∃ ds j, c'.network.sent = c.network.sent ++ ds ∧ c'.journal = c.journal ++ j ∧
        Passes c.before c.after c.timeout c.wire (fun k => ⟨req.method, url, headers, req.body, k⟩)
          n o ds j r := by
  intro n w o c c' r hfuel hn run
  have runs := attempts_runs url key req headers run
  clear run
  -- the fuel outlasts the budget of retries, so it never runs out
  induction runs with
  | exhausted => omega
  | broken got => exact ⟨_, [], rfl, (List.append_nil _).symm, .broken rfl got⟩
  | rejected got stop => exact ⟨_, _, rfl, rfl, .rejected rfl got stop⟩
  | succeeded got pass => exact ⟨_, _, rfl, rfl, .answered rfl got pass (.inl rfl)⟩
  | declined got pass => exact ⟨_, _, rfl, rfl, .answered rfl got pass (.inr ⟨_, rfl⟩)⟩
  | halted got pass _ _ stop => exact ⟨_, _, rfl, List.append_assoc _ _ _, .halted rfl got pass stop⟩
  | @retried fuel n w o c _ _ _ _ _ _ _ got pass _ grant next _ ih =>
    have more := (nextRetry_eq_retry grant).1
    obtain ⟨ds, j, sent, journal, passes⟩ :=
      ih (by omega : c.retry.maxRetries + 2 ≤ _) (by omega : _ ≤ c.retry.maxRetries)
    refine ⟨_ :: ds, _, ?_, ?_, .retried rfl got pass next passes⟩
    · simp [sent, Network.carry]
    · simp [journal]

section Facts

variable {before : List BeforeHook} {after : List AfterHook} {timeout : Nat}
  {wire : HookRequest → HookRequest} {fresh : Nat → HookRequest} {n : Nat} {o : HookRequest}
  {ds : List Delivery} {j : List Sighting} {r : Except ClientError Http.Response}

theorem Passes.sent_fresh (h : Passes before after timeout wire fresh n o ds j r)
    (first : (runBefore before (fresh n)).1 = .ok o) :
    ∀ k d, ds[k]? = some d → ∃ o', (runBefore before (fresh (n + k))).1 = .ok o' ∧ d.request = wire o' := by
  induction h with
  | broken sent | rejected sent | answered sent | halted sent =>
    intro k d here
    rcases k with _ | k <;> simp at here
    subst here
    exact ⟨_, first, sent⟩
  | @retried n o d resp o' ds j r sent _ _ next _ ih =>
    intro k d' here
    cases k with
    | zero =>
      simp only [List.getElem?_cons_zero, Option.some.injEq] at here
      subst here
      exact ⟨o, first, sent⟩
    | succ k =>
      obtain ⟨o'', passed, carried⟩ := ih next k d' (by simpa using here)
      have index : n + (k + 1) = n + 1 + k := by omega
      exact ⟨o'', by rw [index]; exact passed, carried⟩

theorem Passes.journal (h : Passes before after timeout wire fresh n o ds j r)
    (first : (runBefore before (fresh n)).1 = .ok o) :
    (runBefore before (fresh n)).2 ++ j = callLog before after timeout fresh n ds ∨
      ∃ m, (runBefore before (fresh (n + ds.length))).1 = .error m ∧ r = .error (.hook m) ∧
        (runBefore before (fresh n)).2 ++ j =
          callLog before after timeout fresh n ds ++ (runBefore before (fresh (n + ds.length))).2 := by
  induction h with
  | broken sent got =>
    left
    simp [callLog, first, got]
  | rejected sent got stop | answered sent got =>
    left
    simp [callLog, first, got]
  | halted sent got pass stop =>
    right
    refine ⟨_, stop, rfl, ?_⟩
    simp [callLog, first, got]
  | @retried n o d resp o' ds j r sent got pass next rest ih =>
    have shift : n + 1 + ds.length = n + (ds.length + 1) := by omega
    rcases ih next with same | ⟨m, stop, ended, more⟩
    · left
      simp only [callLog, first, got, ← same, List.append_assoc]
    · right
      refine ⟨m, by rw [List.length_cons, ← shift]; exact stop, ended, ?_⟩
      simp only [callLog, first, got, List.append_assoc, List.length_cons, ← shift]
      rw [more]

theorem Passes.refused (h : Passes before after timeout wire fresh n o ds j r)
    (first : (runBefore before (fresh n)).1 = .ok o) :
    ∀ m, r = .error (.hook m) →
      (runBefore before (fresh (n + ds.length))).1 = .error m ∨
      ∃ d o' resp, ds.getLast? = some d ∧ (runBefore before (fresh (n + ds.length - 1))).1 = .ok o' ∧
        d.received timeout = .ok resp ∧ (runAfter after o' resp).1 = .error m := by
  induction h with
  | broken => intro m ended; cases ended
  | rejected sent got stop =>
    intro m ended
    cases ended
    exact .inr ⟨_, _, _, rfl, by simpa using first, got, stop⟩
  | answered sent got pass final =>
    intro m ended
    rcases final with ok | ⟨e, api⟩
    · rw [ok] at ended; cases ended
    · rw [api] at ended; cases ended
  | halted sent got pass stop =>
    intro m ended
    cases ended
    exact .inl (by simpa using stop)
  | @retried n o d resp o' ds j r sent got pass next rest ih =>
    intro m ended
    have shift : n + 1 + ds.length = n + (ds.length + 1) := by omega
    rcases ih next m ended with stop | ⟨d', o'', resp', last, passed, got', refusal⟩
    · left
      rw [List.length_cons, ← shift]
      exact stop
    · right
      have nonempty : ds ≠ [] := by
        intro empty
        rw [empty] at last
        cases last
      refine ⟨d', o'', resp', ?_, ?_, got', refusal⟩
      · rw [List.getLast?_cons_of_ne_nil nonempty]; exact last
      · have index : n + 1 + ds.length - 1 = n + (ds.length + 1) - 1 := by omega
        rw [List.length_cons, ← index]
        exact passed

end Facts

/-- What the hooks do over a call that sent `ds`, saw `j` and ended with `r`. -/
structure HookContract (before : List BeforeHook) (after : List AfterHook) (timeout : Nat)
    (wire : HookRequest → HookRequest) (fresh : Nat → HookRequest) (ds : List Delivery)
    (j : List Sighting) (r : Except ClientError Http.Response) : Prop where
  /-- Each request sent is one pass of the hooks over a fresh request. -/
  sent_fresh : ∀ k d, ds[k]? = some d →
    ∃ o, (runBefore before (fresh k)).1 = .ok o ∧ d.request = wire o
  /-- The journal holds the passes in order, then the pass that refused, if one did. -/
  journal : j = callLog before after timeout fresh 0 ds ∨
    ∃ m, (runBefore before (fresh ds.length)).1 = .error m ∧ r = .error (.hook m) ∧
      j = callLog before after timeout fresh 0 ds ++ (runBefore before (fresh ds.length)).2
  /-- A refusal ends the call with the first refusing hook's message. -/
  refused : ∀ m, r = .error (.hook m) →
    (∃ pre hook post q, before = pre ++ hook :: post ∧
      runBefore pre (fresh ds.length) = (.ok q, (runBefore before (fresh ds.length)).2) ∧
      hook.apply q = .error m) ∨
    ∃ d o resp, ds.getLast? = some d ∧ (runBefore before (fresh (ds.length - 1))).1 = .ok o ∧
      d.received timeout = .ok resp ∧
      ∃ pre hook post, after = pre ++ hook :: post ∧
        runAfter pre o resp = (.ok (), (runAfter after o resp).2) ∧ hook.apply o resp = .error m

theorem Passes.contract {before : List BeforeHook} {after : List AfterHook} {timeout : Nat}
    {wire : HookRequest → HookRequest} {fresh : Nat → HookRequest} {o : HookRequest}
    {ds : List Delivery} {j : List Sighting} {r : Except ClientError Http.Response}
    (h : Passes before after timeout wire fresh 0 o ds j r)
    (first : (runBefore before (fresh 0)).1 = .ok o) :
    HookContract before after timeout wire fresh ds ((runBefore before (fresh 0)).2 ++ j) r where
  sent_fresh := by simpa using h.sent_fresh first
  journal := by simpa using h.journal first
  refused := by
    intro m ended
    rcases h.refused first m ended with stop | ⟨d, o', resp, last, passed, got, stop⟩
    · exact .inl (runBefore_eq_error (by simpa using stop))
    · exact .inr ⟨d, o', resp, last, by simpa using passed, got, runAfter_eq_error stop⟩

theorem HookContract.of_first_refusal {before : List BeforeHook} {after : List AfterHook}
    {timeout : Nat} {wire : HookRequest → HookRequest} {fresh : Nat → HookRequest} {m : String}
    (stop : (runBefore before (fresh 0)).1 = .error m) :
    HookContract before after timeout wire fresh [] (runBefore before (fresh 0)).2
      (.error (.hook m)) where
  sent_fresh := by intro k d here; simp at here
  journal := .inr ⟨m, stop, rfl, by simp [callLog]⟩
  refused := by
    intro m' ended
    cases ended
    exact .inl (runBefore_eq_error stop)

theorem Passes.ne_nil {before : List BeforeHook} {after : List AfterHook} {timeout : Nat}
    {wire : HookRequest → HookRequest} {fresh : Nat → HookRequest} {n : Nat} {o : HookRequest}
    {ds : List Delivery} {j : List Sighting} {r : Except ClientError Http.Response}
    (h : Passes before after timeout wire fresh n o ds j r) : ds ≠ [] := by
  cases h <;> simp

theorem target_error_ne_hook {c : Client} {req : ApiRequest} {e : ClientError}
    (h : c.target req = .error e) (m : String) : e ≠ .hook m := by
  unfold Client.target at h
  cases resolved : c.url req.path with
  | ok u =>
    rw [resolved] at h
    cases h
  | error e' =>
    rw [resolved] at h
    cases h
    unfold Client.url requestUrl at resolved
    split at resolved
    · cases resolved
    · cases resolved
      simp

theorem requestHeaders_error_ne_hook {c : Client} {req : ApiRequest} {e : ClientError}
    (h : c.requestHeaders req = .error e) (m : String) : e ≠ .hook m := by
  unfold Client.requestHeaders at h
  -- a bad token fails as settings, a bad filter as validation
  cases token : c.token with
  | none =>
    simp only [token, pure_bind] at h
    cases filter : req.filter with
    | none => simp only [filter] at h; cases h
    | some f =>
      simp only [filter] at h
      split at h
      · cases h
      · cases h; simp
  | some t =>
    simp only [token] at h
    split at h
    · simp only [pure_bind] at h
      cases filter : req.filter with
      | none => simp only [filter] at h; cases h
      | some f =>
        simp only [filter] at h
        split at h
        · cases h
        · cases h; simp
    · cases h; simp

theorem lookup_journal (key : Option String) (c : Client) :
    (Id.run ((lookup key).run c)).2.journal = c.journal := by
  cases key <;> rfl

theorem lookup_cache (key : Option String) (c : Client) :
    (Id.run ((lookup key).run c)).2.cache =
      match key with
      | some k => (c.cache.get? k c.clock).2
      | none => c.cache := by
  cases key <;> rfl

theorem Client.wire_eq {c c' : Client} (same : c'.userAgent = c.userAgent) : c'.wire = c.wire := by
  funext r
  simp only [Client.wire, same]

/-- Over every call the hooks keep `HookContract`, and a call that ends before its first pass
sends nothing and runs no hook. -/
theorem hooks_pass_once_per_attempt (c : Client) (req : ApiRequest) :
    ∃ ds j, (c.exec req).2.network.sent = c.network.sent ++ ds ∧
      (c.exec req).2.journal = c.journal ++ j ∧
      (∀ resp, (c.exec req).1 = .ok resp → ds = [] → j = []) ∧
      ((ds = [] ∧ j = [] ∧ ∀ m, (c.exec req).1 ≠ .error (.hook m)) ∨
       ∃ url headers, c.target req = .ok url ∧ c.requestHeaders req = .ok headers ∧
         HookContract c.before c.after c.timeout c.wire
           (fun k => ⟨req.method, url, headers, req.body, k⟩) ds j (c.exec req).1 ∧
         ∀ m, (c.exec req).1 = .error (.hook m) →
           (c.exec req).2.cache = match c.cacheKeyAt req url with
             | some k => (c.cache.get? k c.clock).2
             | none => c.cache) := by
  rcases exec_opening c req with ⟨e, bad, ran⟩ | ⟨url, addressed, opened⟩
  · rw [ran]
    refine ⟨[], [], by simp, by simp, fun _ _ _ => rfl, .inl ⟨rfl, rfl, ?_⟩⟩
    intro m same
    cases same
    exact target_error_ne_hook bad m rfl
  · have quiet := lookup_quiet (c.cacheKeyAt req url) c
    have journal := lookup_journal (c.cacheKeyAt req url) c
    rcases opened with ⟨body, -, ran⟩ |
      ⟨-, ⟨e, bad, ran⟩ | ⟨headers, built, c₁, hc₁, ⟨m, stop, ran⟩ | ⟨o, passed, ran⟩⟩⟩
    · -- the cache answers before any hook runs
      rw [ran]
      refine ⟨[], [], by simp [quiet.sent], by simp [journal], fun _ _ _ => rfl,
        .inl ⟨rfl, rfl, fun m same => ?_⟩⟩
      cases same
    · rw [ran]
      refine ⟨[], [], by simp [quiet.sent], by simp [journal], fun _ _ _ => rfl,
        .inl ⟨rfl, rfl, fun m same => ?_⟩⟩
      cases same
      exact requestHeaders_error_ne_hook bad m rfl
    · -- the hooks refuse the first attempt
      rw [ran, hc₁]
      refine ⟨[], (runBefore c.before ⟨req.method, url, headers, req.body, 0⟩).2, ?_, ?_, ?_,
        .inr ⟨url, headers, addressed, built, ?_, ?_⟩⟩
      · simp [quiet.sent]
      · simp [journal]
      · intro _ answered _
        cases answered
      · exact HookContract.of_first_refusal stop
      · intro m' _
        exact lookup_cache _ c
    · -- the attempts run from the looked-up client with the first pass in its journal
      have retry : c₁.retry = c.retry := by rw [hc₁]; exact congrArg (·.1) quiet.setup
      have setup : c₁.before = c.before ∧ c₁.after = c.after ∧ c₁.timeout = c.timeout ∧
          c₁.wire = c.wire := by
        rw [hc₁]
        exact ⟨congrArg (·.2.2.1) quiet.setup, congrArg (·.2.2.2.1) quiet.setup,
          congrArg (·.2.1) quiet.setup, Client.wire_eq (congrArg (·.2.2.2.2.1) quiet.setup)⟩
      have sent₁ : c₁.network.sent = c.network.sent := by rw [hc₁]; exact quiet.sent
      have journal₁ : c₁.journal = c.journal ++ (runBefore c.before ⟨req.method, url, headers,
          req.body, 0⟩).2 := by rw [hc₁, ← journal]
      have cache₁ : c₁.cache = match c.cacheKeyAt req url with
          | some k => (c.cache.get? k c.clock).2
          | none => c.cache := by rw [hc₁]; exact lookup_cache _ c
      clear hc₁
      generalize out : c.exec req = result at ran
      obtain ⟨r, c'⟩ := result
      obtain ⟨ds, j, sent, logged, passes⟩ :=
        attempts_passes url _ req headers _ 0 ⟨0⟩ o c₁ c' r (by rw [retry]; omega)
          (Nat.zero_le _) ran.symm
      obtain ⟨before, after, timeout, wire⟩ := setup
      rw [before, after, timeout, wire] at passes
      refine ⟨ds, _ ++ j, by rw [sent, sent₁], by rw [logged, journal₁, List.append_assoc],
        fun _ _ empty => absurd empty passes.ne_nil,
        .inr ⟨url, headers, addressed, built, passes.contract passed, ?_⟩⟩
      intro m refused
      rcases attempts_cache _ _ _ _ _ _ _ _ _ _ _ ran.symm with ⟨resp, ok, -⟩ | ⟨-, kept⟩
      · rw [ok] at refused; cases refused
      · exact kept.trans cache₁

end CloudApi
