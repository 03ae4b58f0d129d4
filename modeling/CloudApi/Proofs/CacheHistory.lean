import CloudApi.Proofs.RetrySchedule

/-!
# What the response cache answers

A session is a list of operations on a client. Every entry of the cache is the last fetch of its
key with no clear or invalidation of its path since (`run_remembers`), so a call the cache
answers gets status 200 and that fetch's body.
-/

namespace CloudApi

namespace Client

theorem cacheKeyAt_of_read {c : Client} {req : ApiRequest} (url : Web.Url)
    (read : req.method = "GET") (cacheable : req.cacheable = true) (on : c.cache.enabled = true) :
    c.cacheKeyAt req url = some (Http.cacheKey req.method url req.filter) := by
  simp [cacheKeyAt, read, cacheable, on]

theorem cacheKeyAt_eq_some {c : Client} {req : ApiRequest} {url : Web.Url} {k : String}
    (h : c.cacheKeyAt req url = some k) :
    req.method = "GET" ∧ req.cacheable = true ∧ c.cache.enabled = true ∧
      k = Http.cacheKey req.method url req.filter := by
  unfold cacheKeyAt at h
  split at h
  · rename_i asked
    simp only [Bool.and_eq_true, beq_iff_eq] at asked
    cases h
    exact ⟨asked.1.1, asked.1.2, asked.2, rfl⟩
  · cases h

theorem cacheKeyAt_eq_none {c : Client} {req : ApiRequest} (url : Web.Url)
    (other : ¬(req.method = "GET" ∧ req.cacheable = true ∧ c.cache.enabled = true)) :
    c.cacheKeyAt req url = none := by
  unfold cacheKeyAt
  rw [if_neg]
  simpa [Bool.and_eq_true, and_assoc] using other

end Client

namespace Http.Cache

theorem mem_of_lookup {l : List (String × CacheEntry)} {k : String} {e : CacheEntry}
    (h : l.lookup k = some e) : (k, e) ∈ l := by
  obtain ⟨l₁, l₂, rfl, -⟩ := List.lookup_eq_some_iff.1 h
  exact List.mem_append_right _ List.mem_cons_self

theorem get?_state (c : Cache) (k : String) (now : Nat) :
    (c.get? k now).2 = c ∨ (c.get? k now).2 = { c with entries := c.entries.filter (·.1 != k) } := by
  unfold get?
  split
  · exact .inl rfl
  · split
    · exact .inl rfl
    · split
      · exact .inr rfl
      · exact .inl rfl

theorem get?_keeps (c : Cache) (k : String) (now : Nat) :
    (c.get? k now).2.enabled = c.enabled ∧ (c.get? k now).2.lifetime = c.lifetime ∧
      ∀ x ∈ (c.get? k now).2.entries, x ∈ c.entries := by
  rcases get?_state c k now with same | dropped
  · rw [same]
    exact ⟨rfl, rfl, fun _ mem => mem⟩
  · rw [dropped]
    exact ⟨rfl, rfl, fun _ mem => List.mem_of_mem_filter mem⟩

theorem get?_hit {c : Cache} {k : String} {now : Nat} {body : ByteArray}
    (h : (c.get? k now).1 = some body) :
    c.enabled = true ∧ ∃ e, (k, e) ∈ c.entries ∧ now < e.storedAt + c.lifetime ∧ e.body = body := by
  unfold get? at h
  split at h
  · cases h
  · rename_i on
    split at h
    · cases h
    · rename_i e found
      split at h
      · cases h
      · rename_i live
        cases h
        refine ⟨by simpa using on, e, mem_of_lookup found, ?_, rfl⟩
        simpa [CacheEntry.expired] using live

theorem insert_entries_live {c : Cache} {k path : String} {body : ByteArray} {now : Nat}
    (on : c.enabled = true) :
    ∀ x ∈ (c.insert k path body now).entries,
      x = (k, ⟨path, body, now⟩) ∨ (x ∈ c.entries ∧ x.1 ≠ k ∧ now < x.2.storedAt + c.lifetime) := by
  intro x mem
  simp only [insert, on, Bool.not_true, Bool.false_eq_true, ↓reduceIte] at mem
  have swept : ∀ y ∈ c.entries.filter (fun y => !y.2.expired c.lifetime now),
      y ∈ c.entries ∧ now < y.2.storedAt + c.lifetime := by
    intro y live
    obtain ⟨held, young⟩ := List.mem_filter.1 live
    refine ⟨held, ?_⟩
    simpa [CacheEntry.expired] using young
  split at mem
  · obtain ⟨y, live, rfl⟩ := List.mem_map.1 mem
    by_cases same : y.1 = k
    · left; simp [same]
    · right
      simp only [beq_iff_eq, same, ↓reduceIte]
      exact ⟨(swept y live).1, same, (swept y live).2⟩
  · rename_i fresh
    rcases List.mem_append.1 mem with live | added
    · right
      refine ⟨(swept x live).1, fun same => fresh ?_, (swept x live).2⟩
      exact List.any_eq_true.2 ⟨x, live, by simp [same]⟩
    · left; simpa using added

theorem insert_entries {c : Cache} {k path : String} {body : ByteArray} {now : Nat}
    (on : c.enabled = true) :
    ∀ x ∈ (c.insert k path body now).entries,
      x = (k, ⟨path, body, now⟩) ∨ (x ∈ c.entries ∧ x.1 ≠ k) := by
  intro x mem
  rcases insert_entries_live on x mem with new | ⟨held, other, -⟩
  · exact .inl new
  · exact .inr ⟨held, other⟩

theorem invalidate_entries (c : Cache) (endpoint : String) :
    ∀ x ∈ (c.invalidate endpoint).2.entries,
      x ∈ c.entries ∧ pathNames x.2.path endpoint = false := by
  intro x mem
  obtain ⟨held, kept⟩ := List.mem_filter.1 mem
  exact ⟨held, by simpa using kept⟩

end Http.Cache

namespace Pipeline

theorem lookup_keeps (key : Option String) (c : Client) :
    let c' := (Id.run ((lookup key).run c)).2
    c'.cache.enabled = c.cache.enabled ∧ c'.cache.lifetime = c.cache.lifetime ∧
      ∀ x ∈ c'.cache.entries, x ∈ c.cache.entries := by
  cases key with
  | none => exact ⟨rfl, rfl, fun _ mem => mem⟩
  | some k => exact Http.Cache.get?_keeps c.cache k c.clock

theorem lookup_hit {key : Option String} {c : Client} {body : ByteArray}
    (h : (Id.run ((lookup key).run c)).1 = some body) :
    ∃ k, key = some k ∧ (c.cache.get? k c.clock).1 = some body := by
  cases key with
  | none => cases h
  | some k => exact ⟨k, rfl, h⟩

theorem attempts_cache (url : Web.Url) (key : Option String) (req : ApiRequest)
    (headers : Http.Headers) (fuel : Nat) :
    ∀ (n : Nat) (w : Span) (o : HookRequest) (c c' : Client) (r : Except ClientError Http.Response),
      Id.run ((attempts url key req headers fuel n w o).run c) = (r, c') →
      (∃ resp, r = .ok resp ∧ classify resp = none ∧
        c'.cache = match key with
          | some k => c.cache.insert k url.pathText resp.body c'.clock
          | none => c.cache) ∨
      ((∃ e, r = .error e) ∧ c'.cache = c.cache) := by
  intro n w o c c' r run
  have runs := attempts_runs url key req headers run
  clear run
  -- only a success writes to the cache; a retry hands the cache on as it was
  induction runs with
  | exhausted | broken | rejected | declined | halted => exact .inr ⟨⟨_, rfl⟩, rfl⟩
  | succeeded _ _ ok => exact .inl ⟨_, rfl, ok, rfl⟩
  | retried _ _ _ _ _ _ ih => exact ih

theorem attempts_send (url : Web.Url) (key : Option String) (req : ApiRequest)
    (headers : Http.Headers) (fuel : Nat) (o : HookRequest) (c c' : Client)
    (r : Except ClientError Http.Response) (enough : c.retry.maxRetries + 2 ≤ fuel)
    (run : Id.run ((attempts url key req headers fuel 0 ⟨0⟩ o).run c) = (r, c')) :
    c.network.sent.length < c'.network.sent.length := by
  obtain ⟨ds, ss, sent, follows, -⟩ :=
    attempts_follow url key req headers _ 0 ⟨0⟩ o c c' r (by omega) (Nat.zero_le _) run
  have pos := follows.length_pos
  rw [sent, List.length_append]
  omega

theorem classify_eq_none {resp : Http.Response} (h : classify resp = none) :
    Http.Status.isSuccess resp.status = true := by
  unfold classify at h
  split at h
  · assumption
  · split at h
    · cases h
    · split at h
      · cases h
      · split at h <;> cases h

end Pipeline

open Pipeline

/-- Running `req` on `c` fetched `body` from `url` with the cache on. -/
structure Fetches (c : Client) (req : ApiRequest) (url : Web.Url) (body : ByteArray) : Prop where
  read : req.method = "GET"
  cacheable : req.cacheable = true
  enabled : c.cache.enabled = true
  addressed : c.target req = .ok url
  sent : c.network.sent.length < (c.exec req).2.network.sent.length
  answered : ∃ resp, (c.exec req).1 = .ok resp ∧ Http.Status.isSuccess resp.status = true ∧
    resp.body = body

theorem not_fetches_of_error {c : Client} {req : ApiRequest} {e : ClientError}
    (failed : (c.exec req).1 = .error e) (url : Web.Url) (body : ByteArray) :
    ¬Fetches c req url body := by
  intro fetched
  obtain ⟨resp, answered, -⟩ := fetched.answered
  rw [failed] at answered
  cases answered

theorem exec_cache (c : Client) (req : ApiRequest) :
    (∃ url body, Fetches c req url body ∧ ∀ x ∈ (c.exec req).2.cache.entries,
      x = (Http.cacheKey req.method url req.filter, ⟨url.pathText, body, (c.exec req).2.clock⟩) ∨
      (x ∈ c.cache.entries ∧ x.1 ≠ Http.cacheKey req.method url req.filter)) ∨
    ((∀ url body, ¬Fetches c req url body) ∧
      (c.exec req).2.cache.entries ⊆ c.cache.entries) := by
  rcases exec_opening c req with ⟨e, -, ran⟩ | ⟨url, addressed, opened⟩
  · refine .inr ⟨not_fetches_of_error (by rw [ran]), ?_⟩
    rw [ran]
    exact fun _ mem => mem
  · have keeps := lookup_keeps (c.cacheKeyAt req url) c
    have quiet := lookup_quiet (c.cacheKeyAt req url) c
    rcases opened with ⟨body, -, ran⟩ |
      ⟨-, ⟨e, -, ran⟩ | ⟨headers, -, c₁, hc₁, ⟨m, -, ran⟩ | ⟨o, -, ran⟩⟩⟩
    · -- the cache answers: nothing is sent
      refine .inr ⟨fun url' body' fetched => Nat.lt_irrefl _ (Nat.lt_of_lt_of_eq fetched.sent ?_), ?_⟩
      · rw [ran, quiet.sent]
      · rw [ran]; exact keeps.2.2
    · refine .inr ⟨not_fetches_of_error (by rw [ran]), ?_⟩
      rw [ran]; exact keeps.2.2
    · refine .inr ⟨not_fetches_of_error (by rw [ran]), ?_⟩
      rw [ran, hc₁]; exact keeps.2.2
    · -- the attempts start from the looked-up client, the first pass in its journal
      have retry : c₁.retry = c.retry := by rw [hc₁]; exact quiet.retry
      have enabled₁ : c₁.cache.enabled = c.cache.enabled := by rw [hc₁]; exact keeps.1
      have entries₁ : ∀ x ∈ c₁.cache.entries, x ∈ c.cache.entries := by rw [hc₁]; exact keeps.2.2
      have sent₁ : c₁.network.sent = c.network.sent := by rw [hc₁]; exact quiet.sent
      clear hc₁
      generalize out : c.exec req = result at ran
      obtain ⟨r, c'⟩ := result
      have sent := attempts_send _ _ _ _ _ _ _ _ _ (Nat.le_of_eq (by rw [retry])) ran.symm
      rcases attempts_cache _ _ _ _ _ _ _ _ _ _ _ ran.symm with
        ⟨resp, rfl, judged, stored⟩ | ⟨⟨e, rfl⟩, stored⟩
      · by_cases asked : req.method = "GET" ∧ req.cacheable = true ∧ c.cache.enabled = true
        · obtain ⟨read, cacheable, enabled⟩ := asked
          rw [Client.cacheKeyAt_of_read url read cacheable enabled] at stored
          refine .inl ⟨url, resp.body, ⟨read, cacheable, enabled, addressed, ?_, ?_⟩, ?_⟩
          · rw [out, ← sent₁]; exact sent
          · rw [out]; exact ⟨resp, rfl, classify_eq_none judged, rfl⟩
          · intro x mem
            change x ∈ c'.cache.entries at mem
            rw [stored] at mem
            rcases Http.Cache.insert_entries (enabled₁.trans enabled) x mem with
              new | ⟨held, other⟩
            · exact .inl new
            · exact .inr ⟨entries₁ x held, other⟩
        · rw [Client.cacheKeyAt_eq_none url asked] at stored
          refine .inr ⟨fun url' body' fetched => asked ⟨fetched.read, fetched.cacheable,
            fetched.enabled⟩, ?_⟩
          intro x mem
          change x ∈ c'.cache.entries at mem
          rw [stored] at mem
          exact entries₁ x mem
      · refine .inr ⟨not_fetches_of_error (by rw [out]), ?_⟩
        intro x mem
        change x ∈ c'.cache.entries at mem
        rw [stored] at mem
        exact entries₁ x mem

theorem clock_le_exec (c : Client) (req : ApiRequest) : c.clock ≤ (c.exec req).2.clock := by
  rcases out : c.exec req with ⟨r, c'⟩
  unfold Client.exec at out
  rcases execute_cases req c c' r out with quiet | ⟨url, key, headers, o, c₁, quiet, run⟩
  · exact Nat.le_of_eq quiet.clock.symm
  · have retry : c₁.retry = c.retry := quiet.retry
    obtain ⟨ds, ss, -, follows, -⟩ :=
      attempts_follow url key req headers _ 0 ⟨0⟩ o c₁ _ _ (by rw [retry]; omega) (Nat.zero_le _) run
    rw [follows.ends_at, quiet.clock]
    omega

theorem exec_hit {c : Client} {req : ApiRequest} {resp : Http.Response}
    (answered : (c.exec req).1 = .ok resp)
    (offline : (c.exec req).2.network.sent.length = c.network.sent.length) :
    resp.status = 200 ∧ req.method = "GET" ∧ req.cacheable = true ∧ c.cache.enabled = true ∧
      ∃ url e, c.target req = .ok url ∧ (Http.cacheKey req.method url req.filter, e) ∈ c.cache.entries ∧
        c.clock < e.storedAt + c.cache.lifetime ∧ resp.body = e.body := by
  rcases exec_opening c req with ⟨e, -, ran⟩ | ⟨url, addressed, opened⟩
  · rw [ran] at answered; cases answered
  · have quiet := lookup_quiet (c.cacheKeyAt req url) c
    rcases opened with ⟨body, hit, ran⟩ |
      ⟨-, ⟨e, -, ran⟩ | ⟨headers, -, c₁, hc₁, ⟨m, -, ran⟩ | ⟨o, -, ran⟩⟩⟩
    · rw [ran] at answered
      cases answered
      obtain ⟨k, keyed, got⟩ := lookup_hit hit
      obtain ⟨read, cacheable, enabled, rfl⟩ := Client.cacheKeyAt_eq_some keyed
      obtain ⟨-, e, held, live, body⟩ := Http.Cache.get?_hit got
      exact ⟨rfl, read, cacheable, enabled, url, e, addressed, held, live, body.symm⟩
    · rw [ran] at answered; cases answered
    · rw [ran] at answered; cases answered
    · -- the attempts send, so the call did not return offline
      have retry : c₁.retry = c.retry := by rw [hc₁]; exact quiet.retry
      have sent₁ : c₁.network.sent = c.network.sent := by rw [hc₁]; exact quiet.sent
      clear hc₁
      generalize out : c.exec req = result at ran offline
      obtain ⟨r, c'⟩ := result
      have sent := attempts_send _ _ _ _ _ _ _ _ _ (Nat.le_of_eq (by rw [retry])) ran.symm
      rw [← sent₁] at offline
      exact absurd (Nat.lt_of_lt_of_eq sent offline) (Nat.lt_irrefl _)

/-! ### Sessions -/

namespace Session

/-- An operation on a client between calls. -/
inductive Op where
  | execute (req : ApiRequest)
  | useCache (on : Bool)
  | clearCache
  | setCacheExpiration (ms : Nat)
  | invalidate (endpoint : String)
  | advance (ms : Nat)

namespace Op

/-- The client after an operation. -/
def apply (c : Client) : Op → Client
  | .execute req => (c.exec req).2
  | .useCache on => c.useCache on
  | .clearCache => c.clearCache
  | .setCacheExpiration ms => c.setCacheExpiration ms
  | .invalidate endpoint => (c.invalidate endpoint).2
  | .advance ms => c.advance ms

/-- The operation leaves alone an entry stored under `k` for `path`. -/
def Spares (c : Client) (k path : String) : Op → Prop
  | .execute req => ∀ url body, Fetches c req url body → Http.cacheKey req.method url req.filter ≠ k
  | .clearCache => False
  | .invalidate endpoint => Http.Cache.pathNames path endpoint = false
  | _ => True

theorem clock_le_apply (c : Client) (op : Op) : c.clock ≤ (op.apply c).clock := by
  cases op with
  | execute req => simp only [Op.apply]; exact clock_le_exec c req
  | advance ms => exact Nat.le_add_right c.clock ms
  | useCache | clearCache | setCacheExpiration | invalidate => exact Nat.le_refl _

end Op

/-- The client after a session of operations, done in turn. -/
def run (c : Client) (ops : List Op) : Client := ops.foldl Op.apply c

theorem run_append (c : Client) (ops more : List Op) : run c (ops ++ more) = run (run c ops) more :=
  List.foldl_append

theorem run_concat (c : Client) (ops : List Op) (op : Op) : run c (ops ++ [op]) = op.apply (run c ops) :=
  by rw [run_append]; rfl

theorem clock_le_run (c : Client) (ops : List Op) : c.clock ≤ (run c ops).clock := by
  induction ops generalizing c with
  | nil => exact Nat.le_refl _
  | cons op rest ih => exact Nat.le_trans (op.clock_le_apply c) (ih (op.apply c))

/-- Every operation of `ops`, done in turn from `c`, spares an entry stored under `k` for `path`. -/
def Undisturbed (c : Client) (k path : String) : List Op → Prop
  | [] => True
  | op :: ops => op.Spares c k path ∧ Undisturbed (op.apply c) k path ops

theorem undisturbed_concat (c : Client) (k path : String) (ops : List Op) (op : Op) :
    Undisturbed c k path (ops ++ [op]) ↔ Undisturbed c k path ops ∧ op.Spares (run c ops) k path := by
  induction ops generalizing c with
  | nil => simp [Undisturbed, run]
  | cons o rest ih => simp [Undisturbed, run, ih, and_assoc]

/-- Under key `k`, `e` is the last fetch of the session `ops` from `c₀` not dropped since. -/
def LastFetch (c₀ : Client) (ops : List Op) (k : String) (e : Http.CacheEntry) : Prop :=
  ∃ pre req url post, ops = pre ++ .execute req :: post ∧
    Fetches (run c₀ pre) req url e.body ∧ Http.cacheKey req.method url req.filter = k ∧
    e.path = url.pathText ∧ e.storedAt = (run c₀ (pre ++ [.execute req])).clock ∧
    Undisturbed (run c₀ (pre ++ [.execute req])) k e.path post

theorem LastFetch.concat {c₀ : Client} {ops : List Op} {k : String} {e : Http.CacheEntry}
    (h : LastFetch c₀ ops k e) {op : Op} (spared : op.Spares (run c₀ ops) k e.path) :
    LastFetch c₀ (ops ++ [op]) k e := by
  obtain ⟨pre, req, url, post, rfl, fetched, keyed, path, stored, rest⟩ := h
  refine ⟨pre, req, url, post ++ [op], by simp, fetched, keyed, path, stored, ?_⟩
  rw [undisturbed_concat]
  refine ⟨rest, ?_⟩
  rwa [← run_append, List.append_assoc, List.singleton_append]

theorem LastFetch.stored_le {c₀ : Client} {ops : List Op} {k : String} {e : Http.CacheEntry}
    (h : LastFetch c₀ ops k e) : e.storedAt ≤ (run c₀ ops).clock := by
  obtain ⟨pre, req, url, post, rfl, -, -, -, stored, -⟩ := h
  have split : pre ++ Op.execute req :: post = (pre ++ [.execute req]) ++ post := by simp
  calc e.storedAt = (run c₀ (pre ++ [.execute req])).clock := stored
    _ ≤ (run (run c₀ (pre ++ [.execute req])) post).clock := clock_le_run _ post
    _ = (run c₀ (pre ++ Op.execute req :: post)).clock := by
      rw [split, run_append c₀ (pre ++ [Op.execute req]) post]

theorem lastFetch_new {c₀ : Client} {ops : List Op} {req : ApiRequest} {url : Web.Url}
    {body : ByteArray} (fetched : Fetches (run c₀ ops) req url body) :
    LastFetch c₀ (ops ++ [.execute req]) (Http.cacheKey req.method url req.filter)
      ⟨url.pathText, body, ((run c₀ ops).exec req).2.clock⟩ := by
  refine ⟨ops, req, url, [], rfl, fetched, rfl, rfl, ?_, trivial⟩
  rw [run_concat]
  simp only [Op.apply]

/-- Every entry of the cache after `ops` is the last fetch of its key. -/
def Remembers (c₀ : Client) (ops : List Op) : Prop :=
  ∀ x ∈ (run c₀ ops).cache.entries, LastFetch c₀ ops x.1 x.2

theorem remembers_concat {c₀ : Client} {ops : List Op} (h : Remembers c₀ ops) (op : Op) :
    Remembers c₀ (ops ++ [op]) := by
  intro x mem
  rw [run_concat] at mem
  cases op with
  | execute req =>
    simp only [Op.apply] at mem
    rcases exec_cache (run c₀ ops) req with ⟨url, body, fetched, stored⟩ | ⟨never, kept⟩
    · rcases stored x mem with new | ⟨held, other⟩
      · subst new
        exact lastFetch_new fetched
      · -- a fetch for another key spares the entry
        refine (h x held).concat fun url' body' fetched' same => other ?_
        have addressed := fetched'.addressed.symm.trans fetched.addressed
        cases addressed
        exact same.symm
    · exact (h x (kept mem)).concat fun url body fetched => absurd fetched (never url body)
  | useCache on => exact (h x mem).concat trivial
  | setCacheExpiration ms => exact (h x mem).concat trivial
  | advance ms => exact (h x mem).concat trivial
  | clearCache => cases mem
  | invalidate endpoint =>
    obtain ⟨held, kept⟩ := Http.Cache.invalidate_entries _ endpoint x mem
    exact (h x held).concat kept

theorem run_remembers (c₀ : Client) (fresh : c₀.cache.entries = []) (ops : List Op) :
    Remembers c₀ ops := by
  induction ops using List.reverseRecOn with
  | nil => intro x mem; simp [run, fresh] at mem
  | append_singleton ops op ih => exact remembers_concat ih op

end Session

/-- A call that returns without sending answers status 200 with the body of the last fetch of its
key, younger than the cache's lifetime, with no clear or invalidation of its path since. -/
theorem cache_answers_last_fetch :
    (∀ (c₀ : Client) (ops : List Session.Op) (req : ApiRequest) (resp : Http.Response),
      c₀.cache.entries = [] →
      ((Session.run c₀ ops).exec req).1 = .ok resp →
      ((Session.run c₀ ops).exec req).2.network.sent.length = (Session.run c₀ ops).network.sent.length →
      let c := Session.run c₀ ops
      resp.status = 200 ∧ req.method = "GET" ∧ req.cacheable = true ∧ c.cache.enabled = true ∧
        ∃ url e, c.target req = .ok url ∧
          Session.LastFetch c₀ ops (Http.cacheKey req.method url req.filter) e ∧
          resp.body = e.body ∧ e.storedAt ≤ c.clock ∧ c.clock - e.storedAt < c.cache.lifetime) ∧
    (∀ (c : Client) (req : ApiRequest),
      (req.method ≠ "GET" ∨ req.cacheable = false ∨ ∃ err, (c.exec req).1 = .error err) →
      (c.exec req).2.cache.entries ⊆ c.cache.entries) := by
  refine ⟨?_, ?_⟩
  · intro c₀ ops req resp fresh answered offline
    dsimp only
    obtain ⟨status, read, cacheable, enabled, url, e, addressed, held, live, body⟩ :=
      exec_hit answered offline
    have last := Session.run_remembers c₀ fresh ops _ held
    have stored : e.storedAt ≤ (Session.run c₀ ops).clock := last.stored_le
    exact ⟨status, read, cacheable, enabled, url, e, addressed, last, body, stored, by omega⟩
  · intro c req other x mem
    rcases exec_cache c req with ⟨url, body, fetched, -⟩ | ⟨-, kept⟩
    · exfalso
      rcases other with notRead | notCacheable | ⟨err, failed⟩
      · exact notRead fetched.read
      · rw [fetched.cacheable] at notCacheable
        cases notCacheable
      · exact not_fetches_of_error failed url body fetched
    · exact kept mem

theorem repeated_read_is_served_from_cache :
    let c₀ : Client :=
      { base := { scheme := "http", host := some (.domain "api"), path := .segments ["v4", ""] },
        token := none, userAgent := "ua", timeout := 1000, retry := .disabled,
        cache := Http.Cache.empty 900000, logging := {}, pollInterval := 1000,
        network := { send := fun _ _ => { answer := .ok { status := 200, body := "[]".toUTF8 } } } }
    let read := (ApiRequest.get "regions").cached
    let ops := [Session.Op.execute read]
    let c := Session.run c₀ ops
    ∃ resp, c₀.cache.entries = [] ∧ (c.exec read).1 = .ok resp ∧
      (c.exec read).2.network.sent.length = c.network.sent.length ∧
      (resp.status = 200 ∧ read.method = "GET" ∧ read.cacheable = true ∧ c.cache.enabled = true ∧
        ∃ url e, c.target read = .ok url ∧
          Session.LastFetch c₀ ops (Http.cacheKey read.method url read.filter) e ∧
          resp.body = e.body ∧ e.storedAt ≤ c.clock ∧ c.clock - e.storedAt < c.cache.lifetime) ∧
      ((ApiRequest.post "regions").method ≠ "GET" ∧
        (c.exec (ApiRequest.post "regions")).2.cache.entries ⊆ c.cache.entries) := by
  intro c₀ read ops c
  dsimp only [c]
  have offline : ((Session.run c₀ ops).exec read).2.network.sent.length =
      (Session.run c₀ ops).network.sent.length := by decide +kernel
  have answered : ((Session.run c₀ ops).exec read).1.toBool = true := by decide +kernel
  have notRead : (ApiRequest.post "regions").method ≠ "GET" := by decide
  cases hit : ((Session.run c₀ ops).exec read).1 with
  | error e => rw [hit] at answered; cases answered
  | ok resp =>
    exact ⟨resp, rfl, rfl, offline,
      cache_answers_last_fetch.1 c₀ ops read resp rfl hit offline,
      notRead, cache_answers_last_fetch.2 _ (ApiRequest.post "regions") (.inl notRead)⟩

end CloudApi
