import Mathlib
import CloudApi.Proofs.EventFeed
import CloudApi.Proofs.CacheHistory

/-!
# When a resource counts as free

A wait accepts only a value one of its checks returned, and a listing returns one of the
network's answers. So the resource-free wait succeeds only after a page 1 with no running event
of the entity (`resource_free_only_after_quiet_first_page`); page 1 is all a check sees.
-/

namespace CloudApi

/-! ### A wait accepts what one of its checks returned -/

namespace Wait

section Accepts

variable {σ α : Type}

/-- What a check begun at `now` from state `c` comes to once its remainder has run. -/
def outcome (probe : Nat → StateM σ (Probe (StateM σ) α)) (now : Nat) (c : σ) :
    Except ClientError α × σ :=
  let probed := Id.run ((probe now).run c)
  (probed.1.result, (Id.run (probed.1.settle.run probed.2)).2)

variable {what : String} {s : Schedule} {deadline : Nat}
  {probe : Nat → StateM σ (Probe (StateM σ) α)} {accept : α → Bool}

/-- How checks from state `c` end with `r` on state `c'`. -/
inductive Checks (what : String) (s : Schedule) (probe : Nat → StateM σ (Probe (StateM σ) α))
    (accept : α → Bool) : σ → Except ClientError α → σ → Prop where
  | lost {c w} : Checks what s probe accept c (.error (lost what s w)) c
  | cut {now c w} :
      Checks what s probe accept c (.error (lost what s w)) (Id.run ((probe now).run c)).2
  | failed {now c e} (got : (outcome probe now c).1 = .error e) :
      Checks what s probe accept c (.error e) (outcome probe now c).2
  | accepted {now c v} (got : (outcome probe now c).1 = .ok v) (taken : accept v = true) :
      Checks what s probe accept c (.ok v) (outcome probe now c).2
  | refused {now c v r c'} (got : (outcome probe now c).1 = .ok v) (passed : accept v = false)
      (rest : Checks what s probe accept (outcome probe now c).2 r c') :
      Checks what s probe accept c r c'

theorem checkFrom_checks {fuel : Nat} {p p' : Progress} {c c' : σ} {r : Except ClientError α}
    (run : Id.run ((checkFrom what s deadline probe accept fuel p).run c) = ((r, p'), c')) :
    Checks what s probe accept c r c' := by
  induction fuel generalizing p c with
  | zero =>
    simp only [checkFrom, StateT.run_pure, Id.run_pure, Prod.mk.injEq] at run
    obtain ⟨⟨rfl, -⟩, rfl⟩ := run
    exact .lost
  | succ fuel ih =>
    simp only [checkFrom] at run
    split at run
    · simp only [StateT.run_pure, Id.run_pure, Prod.mk.injEq] at run
      obtain ⟨⟨rfl, -⟩, rfl⟩ := run
      exact .lost
    · rw [StateT.run_bind, Id.run_bind] at run
      generalize probed : Id.run ((probe p.now).run c) = x at run
      obtain ⟨found, c₁⟩ := x
      have started : c₁ = (Id.run ((probe p.now).run c)).2 := by rw [probed]
      dsimp only at run
      -- the fetch races the alarms; only a fetch that wins goes on to settle
      split at run
      · simp only [StateT.run_pure, Id.run_pure, Prod.mk.injEq] at run
        obtain ⟨⟨rfl, -⟩, rfl⟩ := run
        exact started ▸ .cut
      · simp only [StateT.run_pure, Id.run_pure, Prod.mk.injEq] at run
        obtain ⟨⟨rfl, -⟩, rfl⟩ := run
        exact started ▸ .cut
      · rw [StateT.run_bind, Id.run_bind] at run
        generalize settledTo : Id.run (found.settle.run c₁) = y at run
        obtain ⟨u, c₂⟩ := y
        dsimp only at run
        have out : outcome probe p.now c = (found.result, c₂) := by
          simp only [outcome, probed, settledTo]
        have settled : c₂ = (outcome probe p.now c).2 := by rw [out]
        split at run
        · rename_i e failed
          simp only [StateT.run_pure, Id.run_pure, Prod.mk.injEq] at run
          obtain ⟨⟨rfl, -⟩, rfl⟩ := run
          exact settled ▸ .failed (by rw [out]; exact failed)
        · rename_i v found_ok
          have got : (outcome probe p.now c).1 = .ok v := by rw [out]; exact found_ok
          split at run
          · rename_i taken
            simp only [StateT.run_pure, Id.run_pure, Prod.mk.injEq] at run
            obtain ⟨⟨rfl, -⟩, rfl⟩ := run
            exact settled ▸ .accepted got taken
          · rename_i refused
            have passed : accept v = false := by simpa using refused
            -- a refused value is followed by a pause, which races the alarms too
            refine .refused got passed ?_
            rw [← settled]
            split at run
            · simp only [StateT.run_pure, Id.run_pure, Prod.mk.injEq] at run
              obtain ⟨⟨rfl, -⟩, rfl⟩ := run
              exact .lost
            · simp only [StateT.run_pure, Id.run_pure, Prod.mk.injEq] at run
              obtain ⟨⟨rfl, -⟩, rfl⟩ := run
              exact .lost
            · exact ih run

theorem checkFrom_accepts (Inv : σ → Prop) (Done : α → σ → Prop)
    (step : ∀ now c, Inv c → Inv (outcome probe now c).2 ∧
      ∀ v, (outcome probe now c).1 = .ok v → Done v (outcome probe now c).2) :
    ∀ fuel p c v p' c', Inv c →
      Id.run ((checkFrom what s deadline probe accept fuel p).run c) = ((.ok v, p'), c') →
      accept v = true ∧ Done v c' := by
  intro fuel p c v p' c' held run
  have checks := checkFrom_checks run
  clear run
  -- `Inv` is carried along the refused checks to the one that returns the value
  generalize answer : (Except.ok v : Except ClientError α) = r at checks
  induction checks with
  | lost | cut | failed => cases answer
  | accepted got taken =>
    cases answer
    exact ⟨taken, (step _ _ held).2 _ got⟩
  | refused _ _ _ ih => exact ih (step _ _ held).1 answer

theorem run_accepts (Inv : σ → Prop) (Done : α → σ → Prop)
    (step : ∀ now c, Inv c → Inv (outcome probe now c).2 ∧
      ∀ v, (outcome probe now c).1 = .ok v → Done v (outcome probe now c).2)
    {start fuel : Nat} {c c' : σ} {v : α} {p' : Progress} (held : Inv c)
    (run : Id.run ((Wait.run what s start probe accept fuel).run c) = ((.ok v, p'), c')) :
    accept v = true ∧ Done v c' :=
  checkFrom_accepts Inv Done step fuel _ c v p' c' held run

end Accepts

end Wait

theorem Call.outcome_probe {α : Type} (x : Call (Except ClientError α)) (now : Nat) (c : Client) :
    Wait.outcome x.probe now c = Id.run (x.run.run { c with clock := now }) := by
  simp only [Wait.outcome, Call.probe, Call.run, StateT.run_bind, StateT.run_modify, Id.run_bind,
    Id.run_pure]
  generalize Id.run (x.start.run { c with clock := now }) = started
  obtain ⟨flight, paused⟩ := started
  cases flight with
  | landed r => rfl
  | waiting rest => rfl

theorem Client.waitFor_accepts {α : Type} {what : String} {s : Wait.Schedule}
    {fetch : Call (Except ClientError α)} {accept : α → Bool} (Inv : Client → Prop)
    (Done : α → Client → Prop)
    (step : ∀ now c, Inv c → Inv (Id.run (fetch.run.run { c with clock := now })).2 ∧
      ∀ v, (Id.run (fetch.run.run { c with clock := now })).1 = .ok v →
        Done v (Id.run (fetch.run.run { c with clock := now })).2)
    {c c' : Client} {v : α} (held : Inv c)
    (run : Id.run ((Client.waitFor what s fetch accept).run c) = (.ok v, c')) :
    accept v = true ∧ ∃ w p, Done v w ∧ c' = w.afterWait c.origin p := by
  have current : Id.run ((getThe Client : ClientM Client).run c) = (c, c) := rfl
  simp only [Client.waitFor, StateT.run_bind, Id.run_bind, current] at run
  generalize waited : Id.run ((Wait.run what s c.clock fetch.probe accept (s.timeout + 2)).run c) =
    out at run
  obtain ⟨⟨r, p⟩, w⟩ := out
  simp only [StateT.run_modify, StateT.run_pure, Id.run_pure, Prod.mk.injEq] at run
  obtain ⟨rfl, rfl⟩ := run
  have checks : ∀ now c, Inv c → Inv (Wait.outcome fetch.probe now c).2 ∧
      ∀ v, (Wait.outcome fetch.probe now c).1 = .ok v →
        Done v (Wait.outcome fetch.probe now c).2 := by
    intro now c held
    rw [Call.outcome_probe]
    exact step now c held
  obtain ⟨taken, done⟩ := Wait.run_accepts Inv Done checks held waited
  exact ⟨taken, w, p, done, rfl⟩

/-! ### What a listing of the feed reads -/

namespace Pipeline

theorem attempts_honest (url : Web.Url) (key : Option String) (req : ApiRequest)
    (headers : Http.Headers) (fuel : Nat) :
    ∀ (n : Nat) (w : Span) (o : HookRequest) (c c' : Client) (r : Except ClientError Http.Response),
      Id.run ((attempts url key req headers fuel n w o).run c) = (r, c') →
      ∃ ds, c'.network.sent = c.network.sent ++ ds ∧ c'.network.send = c.network.send ∧
        ∀ d ∈ ds, d.exchange = c.network.send d.request d.sentAt := by
  intro n w o c c' r run
  have runs := attempts_runs url key req headers run
  clear run
  -- every way out but a retry ends right after the one delivery of its attempt
  have once : ∀ (c : Client) o, ∃ ds, (c.delivered o).network.sent = c.network.sent ++ ds ∧
      (c.delivered o).network.send = c.network.send ∧
      ∀ d ∈ ds, d.exchange = c.network.send d.request d.sentAt := by
    intro c o
    refine ⟨[c.delivery o], rfl, rfl, ?_⟩
    intro d mem
    rw [List.mem_singleton] at mem
    subst mem
    rfl
  induction runs with
  | exhausted => exact ⟨[], (List.append_nil _).symm, rfl, by simp⟩
  | broken | rejected | succeeded | declined | halted => exact once _ _
  | @retried fuel n w o c _ _ _ _ _ _ _ _ _ _ _ _ _ ih =>
    obtain ⟨rest, sentRest, sameRest, honestRest⟩ := ih
    refine ⟨c.delivery o :: rest, ?_, sameRest, ?_⟩
    · rw [sentRest]
      simp [Network.carry]
    · intro d mem
      rcases List.mem_cons.1 mem with rfl | later
      · rfl
      · exact honestRest d later

theorem Follows.delivered_of_ok {p : Retry.Policy} {jitter : Nat → Float} {timeout : Nat}
    {refuses : String → Prop} {n : Nat} {w : Span} {t : Nat} {ds : List Delivery} {ss : List Span}
    {t' : Nat} {r : Except ClientError Http.Response} (h : Follows p jitter timeout refuses n w t ds ss t' r) :
    ∀ resp, r = .ok resp → ∃ d ∈ ds, d.received timeout = .ok resp ∧ classify resp = none := by
  induction h with
  | succeeded _ got ok =>
    intro resp same
    cases same
    exact ⟨_, List.mem_singleton_self _, got, ok⟩
  | broken | rejected | declined | halted => intro resp same; cases same
  | retried _ _ _ _ _ _ _ ih =>
    intro resp same
    obtain ⟨d, mem, got, ok⟩ := ih resp same
    exact ⟨d, List.mem_cons_of_mem _ mem, got, ok⟩

end Pipeline

theorem Delivery.answer_of_received {d : Delivery} {timeout : Nat} {resp : Http.Response}
    (got : d.received timeout = .ok resp) : d.exchange.answer = .ok resp := by
  unfold Delivery.received at got
  split at got
  · cases got
  · exact got

theorem ApiRequest.page_cacheable (path : String) (p : PageRequest) :
    (ApiRequest.page path p).cacheable = false := by
  -- adding query pairs one by one never marks a request cacheable
  have kept : ∀ (add : ApiRequest → String × String → ApiRequest),
      (∀ r q, (add r q).cacheable = r.cacheable) →
      ∀ (qs : List (String × String)) (r : ApiRequest), (qs.foldl add r).cacheable = r.cacheable := by
    intro add adds qs
    induction qs with
    | nil => intro r; rfl
    | cons q qs ih => intro r; rw [List.foldl_cons, ih, adds]
  rw [ApiRequest.page, kept _ (fun r q => by cases q; rfl)]
  rfl

open Pipeline in
theorem Client.exec_delivers (c : Client) {req : ApiRequest} (fresh : req.cacheable = false) :
    ∃ ds, (c.exec req).2.network.sent = c.network.sent ++ ds ∧
      (c.exec req).2.network.send = c.network.send ∧
      ∀ resp, (c.exec req).1 = .ok resp → ∃ d ∈ ds,
        (c.network.send d.request d.sentAt).answer = .ok resp ∧ classify resp = none := by
  -- every way out before the attempts leaves the network as it was, with an error
  have untouched : ∀ e (c' : Client), c.exec req = (.error e, c') → c'.network = c.network →
      ∃ ds, (c.exec req).2.network.sent = c.network.sent ++ ds ∧
        (c.exec req).2.network.send = c.network.send ∧
        ∀ resp, (c.exec req).1 = .ok resp → ∃ d ∈ ds,
          (c.network.send d.request d.sentAt).answer = .ok resp ∧ classify resp = none := by
    intro e c' ran same
    rw [ran, same]
    exact ⟨[], (List.append_nil _).symm, rfl, fun resp answered => by cases answered⟩
  rcases exec_opening c req with ⟨e, -, ran⟩ | ⟨url, -, opened⟩
  · exact untouched e c ran rfl
  · -- with no key the cache is not looked up, so nothing answers before the network
    have unkeyed : c.cacheKeyAt req url = none := Client.cacheKeyAt_eq_none url (by simp [fresh])
    simp only [unkeyed, lookup, StateT.run_pure, Id.run_pure] at opened
    rcases opened with ⟨body, hit, -⟩ |
      ⟨-, ⟨e, -, ran⟩ | ⟨headers, -, c₁, rfl, ⟨m, -, ran⟩ | ⟨o, -, ran⟩⟩⟩
    · cases hit
    · exact untouched e c ran rfl
    · exact untouched _ _ ran rfl
    · generalize out : c.exec req = result at ran ⊢
      obtain ⟨r, c'⟩ := result
      obtain ⟨ds, sent, same, honest⟩ :=
        attempts_honest url none req headers _ 0 ⟨0⟩ o _ c' r ran.symm
      obtain ⟨ds', _sleeps, sent', follows, -⟩ :=
        attempts_follow url none req headers _ 0 ⟨0⟩ o _ c' r (by simp) (Nat.zero_le _) ran.symm
      have shared : ds' = ds := List.append_cancel_left (sent'.symm.trans sent)
      refine ⟨ds, sent, same, fun resp answered => ?_⟩
      obtain ⟨d, mem, got, ok⟩ := follows.delivered_of_ok resp answered
      rw [shared] at mem
      refine ⟨d, mem, ?_, ok⟩
      rw [← honest d mem]
      exact Delivery.answer_of_received got

theorem Client.listEvents_run (q : ListOptions) (first : q.page ≠ 0) (c : Client) :
    Id.run ((Client.listEvents q).run.run c) =
      match q.filterHeader with
      | .error e => (.error e, c)
      | .ok f =>
        ((c.exec (ApiRequest.page "account/events" (q.request q.page f))).1.bind fun resp =>
            ((Json.decodeText (PageResult.decode Event.decode) resp.body).mapError .decode).map
              (·.items),
          (c.exec (ApiRequest.page "account/events" (q.request q.page f))).2) := by
  unfold Client.listEvents Client.list fetchAll
  cases q.filterHeader with
  | error e => rfl
  | ok f =>
    dsimp only
    rw [if_pos first]
    simp only [Call.run_bind, Client.getPage, Client.requestJson, Bool.false_eq_true, if_false,
      StateT.run_bind, Id.run_bind, Client.exec]
    generalize Id.run ((Client.execute (ApiRequest.page "account/events"
      (q.request q.page f))).run.run c) = out
    obtain ⟨r, c'⟩ := out
    cases r with
    | error e => rfl
    | ok resp =>
      dsimp only [Except.bind]
      cases Json.decodeText (PageResult.decode Event.decode) resp.body <;> rfl

theorem Client.listEvents_delivers (q : ListOptions) (first : q.page ≠ 0) (c : Client) :
    ∃ ds, (Id.run ((Client.listEvents q).run.run c)).2.network.sent = c.network.sent ++ ds ∧
      (Id.run ((Client.listEvents q).run.run c)).2.network.send = c.network.send ∧
      ∀ events, (Id.run ((Client.listEvents q).run.run c)).1 = .ok events → ∃ d ∈ ds, ∃ resp page,
        (c.network.send d.request d.sentAt).answer = .ok resp ∧ classify resp = none ∧
        Json.decodeText (PageResult.decode Event.decode) resp.body = .ok page ∧
        events = page.items := by
  rw [Client.listEvents_run q first c]
  cases q.filterHeader with
  | error e => exact ⟨[], (List.append_nil _).symm, rfl, fun events listed => by cases listed⟩
  | ok f =>
    dsimp only
    obtain ⟨ds, sent, same, answered⟩ :=
      c.exec_delivers (ApiRequest.page_cacheable "account/events" (q.request q.page f))
    refine ⟨ds, sent, same, fun events listed => ?_⟩
    generalize (c.exec (ApiRequest.page "account/events" (q.request q.page f))).1 = r
      at listed answered
    cases r with
    | error e => cases listed
    | ok resp =>
      obtain ⟨d, mem, got, ok⟩ := answered resp rfl
      cases decoded : Json.decodeText (PageResult.decode Event.decode) resp.body with
      | error e => simp [decoded, Except.bind, Except.mapError, Except.map] at listed
      | ok page =>
        simp only [decoded, Except.bind, Except.mapError, Except.map, Except.ok.injEq] at listed
        exact ⟨d, mem, resp, page, got, ok, decoded, listed.symm⟩

/-! ### Page 1 and the resource-free wait -/

theorem Feed.mem_firstPage_of_fits (f : Feed) (filter : Option Filter)
    (fits : (f.events.filter fun e => filter.all (Filter.admits e)).length ≤ f.pageSize)
    {e : Event} (held : e ∈ f.events) (admitted : filter.all (Filter.admits e) = true) :
    e ∈ f.firstPage filter := by
  rw [Feed.firstPage, List.take_of_length_le (by rw [List.length_mergeSort]; exact fits),
    List.mem_mergeSort, List.mem_filter]
  exact ⟨held, admitted⟩

theorem feedQuery_filterHeader_of_unfiltered {t : EntityType} (id : String)
    (unfiltered : t.supportsFeedFilter = false) :
    (feedQuery t id none).filterHeader =
      .ok (some "\x7b\"+order\":\"desc\",\"+order_by\":\"created\"\x7d") := by
  have unfilteredFeed : feedFilter t id none = none := by simp [feedFilter, unfiltered]
  have sorted : (feedQuery t id none).filterHeader =
      .ok (some (Json.obj (Json.Fields.insert "+order" (.str "desc")
        [("+order_by", .str "created")])).render) := by
    simp only [feedQuery, unfilteredFeed]
    rfl
  have order : Json.Fields.insert "+order" (.str "desc") [("+order_by", .str "created")] =
      [("+order", .str "desc"), ("+order_by", .str "created")] := by
    rw [Json.Fields.insert, if_pos (by decide)]
  -- the quoting fold runs over the characters, which the kernel reads off a literal
  have text : (Json.obj [("+order", .str "desc"), ("+order_by", .str "created")]).render =
      "\x7b\"+order\":\"desc\",\"+order_by\":\"created\"\x7d" := by
    simp only [Json.render, Json.renderFields, Json.quote, String.foldl_eq_foldl_toList]
    decide +kernel
  rw [sorted, order, text]

theorem Client.waitResourceFree_run (t : EntityType) (id : String) (s : Wait.Schedule)
    (c : Client) :
    Id.run ((Client.waitResourceFree t id s).run c) =
      let waited := Id.run ((Client.waitFor (t.name ++ " " ++ id ++ " to have no running events") s
        (Client.listEvents (feedQuery t id none))
        fun events => !events.any fun e => e.status.isInProgress && e.concerns t id).run c)
      (waited.1.map fun _ => (), waited.2) :=
  rfl

/-- Against a server answering with page 1 of its feed, the wait for a resource to be free
succeeds only after one of its requests got a page 1 with no running event of the entity. -/
theorem resource_free_only_after_quiet_first_page (t : EntityType) (id : String)
    (s : Wait.Schedule) (history : Nat → Feed) (c : Client)
    (serves : ∀ r τ resp, (c.network.send r τ).answer = .ok resp → classify resp = none →
      ∀ page, Json.decodeText (PageResult.decode Event.decode) resp.body = .ok page →
        page.items = (history τ).firstPage (feedFilter t id none)) :
    ((Client.waitResourceFree t id s).run c).1 = .ok () →
      ∃ ds, ((Client.waitResourceFree t id s).run c).2.network.sent = c.network.sent ++ ds ∧
        ∃ d ∈ ds,
          (∀ e ∈ (history d.sentAt).firstPage (feedFilter t id none), e.concerns t id = true →
            e.status.isInProgress = false) ∧
          (((history d.sentAt).events.filter fun e =>
              (feedFilter t id none).all (Filter.admits e)).length ≤ (history d.sentAt).pageSize →
            ∀ e ∈ (history d.sentAt).events, (feedFilter t id none).all (Filter.admits e) = true →
              e.concerns t id = true → e.status.isInProgress = false) := by
  intro freed
  -- every check keeps the network's answers and only appends to its log; a listing a check
  -- returns is page 1 of the feed at the instant one of its requests went out
  let Inv : Client → Prop := fun c' =>
    c'.network.send = c.network.send ∧ ∃ ds, c'.network.sent = c.network.sent ++ ds
  let Done : List Event → Client → Prop := fun events c' =>
    ∃ ds, c'.network.sent = c.network.sent ++ ds ∧
      ∃ d ∈ ds, events = (history d.sentAt).firstPage (feedFilter t id none)
  have step : ∀ now c₁, Inv c₁ →
      Inv (Id.run ((Client.listEvents (feedQuery t id none)).run.run { c₁ with clock := now })).2 ∧
      ∀ v, (Id.run ((Client.listEvents (feedQuery t id none)).run.run
          { c₁ with clock := now })).1 = .ok v →
        Done v (Id.run ((Client.listEvents (feedQuery t id none)).run.run
          { c₁ with clock := now })).2 := by
    rintro now c₁ ⟨sameSend, before, sentBefore⟩
    obtain ⟨ds, sent, same, answered⟩ :=
      Client.listEvents_delivers (feedQuery t id none) (by simp [feedQuery]) { c₁ with clock := now }
    have extended : (Id.run ((Client.listEvents (feedQuery t id none)).run.run
        { c₁ with clock := now })).2.network.sent = c.network.sent ++ (before ++ ds) := by
      rw [sent, ← List.append_assoc]
      exact congrArg (· ++ ds) sentBefore
    refine ⟨⟨same.trans sameSend, _, extended⟩, fun events listed => ?_⟩
    obtain ⟨d, mem, resp, page, got, ok, decoded, rfl⟩ := answered events listed
    refine ⟨_, extended, d, List.mem_append_right _ mem, ?_⟩
    exact serves d.request d.sentAt resp (sameSend ▸ got) ok page decoded
  rw [show (Client.waitResourceFree t id s).run c = _ from Client.waitResourceFree_run t id s c]
    at freed ⊢
  dsimp only at freed ⊢
  generalize waited : Id.run ((Client.waitFor (t.name ++ " " ++ id ++ " to have no running events")
    s (Client.listEvents (feedQuery t id none))
    fun events => !events.any fun e => e.status.isInProgress && e.concerns t id).run c) = out
    at freed ⊢
  obtain ⟨r, c'⟩ := out
  cases r with
  | error e => cases freed
  | ok events =>
    obtain ⟨accepted, w, p, ⟨ds, sent, d, mem, listing⟩, ended⟩ :=
      Client.waitFor_accepts Inv Done step ⟨rfl, [], (List.append_nil _).symm⟩ waited
    have network : c'.network = w.network := by rw [ended]; rfl
    have quiet : ∀ e ∈ (history d.sentAt).firstPage (feedFilter t id none),
        e.concerns t id = true → e.status.isInProgress = false := by
      have running : ∀ x ∈ events, x.status.isInProgress = true → x.concerns t id = false := by
        simpa using accepted
      intro e shown concerned
      rw [← listing] at shown
      cases busy : e.status.isInProgress with
      | false => rfl
      | true => rw [running e shown busy] at concerned; cases concerned
    refine ⟨ds, network ▸ sent, d, mem, quiet, fun fits e held admitted concerned => ?_⟩
    exact quiet e ((history d.sentAt).mem_firstPage_of_fits _ fits held admitted) concerned

theorem empty_feed_frees_volume :
    let answer : ByteArray := "\x7b\"data\":[],\"page\":1,\"pages\":1,\"results\":0\x7d".toUTF8
    let history : Nat → Feed := fun _ => ⟨[], 1, by decide, by decide⟩
    let c : Client :=
      { base := { scheme := "http", host := some (.domain "api"), path := .segments ["v4", ""] },
        token := none, userAgent := "ua", timeout := 1000, retry := .disabled,
        cache := Http.Cache.empty 900000, logging := {}, pollInterval := 1000,
        network := { send := fun _ _ => { answer := .ok { status := 200, body := answer } } } }
    let s : Wait.Schedule := { interval := 1000, timeout := 1000 }
    (∀ r τ resp, (c.network.send r τ).answer = .ok resp → classify resp = none →
      ∀ page, Json.decodeText (PageResult.decode Event.decode) resp.body = .ok page →
        page.items = (history τ).firstPage (feedFilter .volume "4" none)) ∧
    ((Client.waitResourceFree .volume "4" s).run c).1 = .ok () ∧
    ∃ ds, ((Client.waitResourceFree .volume "4" s).run c).2.network.sent = c.network.sent ++ ds ∧
      ∃ d ∈ ds,
        (∀ e ∈ (history d.sentAt).firstPage (feedFilter .volume "4" none),
          e.concerns .volume "4" = true → e.status.isInProgress = false) ∧
        (((history d.sentAt).events.filter fun e =>
            (feedFilter .volume "4" none).all (Filter.admits e)).length ≤ (history d.sentAt).pageSize →
          ∀ e ∈ (history d.sentAt).events,
            (feedFilter .volume "4" none).all (Filter.admits e) = true →
            e.concerns .volume "4" = true → e.status.isInProgress = false) := by
  intro answer history c s
  have serves : ∀ r τ resp, (c.network.send r τ).answer = .ok resp → classify resp = none →
      ∀ page, Json.decodeText (PageResult.decode Event.decode) resp.body = .ok page →
        page.items = (history τ).firstPage (feedFilter .volume "4" none) := by
    intro r τ resp sent _ page decoded
    have same : resp = { status := 200, body := answer } := (Except.ok.inj sent).symm
    subst same
    have empty : (Json.decodeText (PageResult.decode Event.decode) answer).toOption.map
        (·.items.length) = some 0 := by decide +kernel
    rw [decoded] at empty
    rw [List.eq_nil_of_length_eq_zero (Option.some.inj empty)]
    simp [Feed.firstPage, history]
  have header := feedQuery_filterHeader_of_unfiltered (t := .volume) "4" rfl
  have answered : ((Client.waitResourceFree .volume "4" s).run c).1.toBool = true := by
    simp only [Client.waitResourceFree, Client.waitFor, Client.listEvents, Client.list, fetchAll,
      header]
    decide +kernel
  have freed : ((Client.waitResourceFree .volume "4" s).run c).1 = .ok () := by
    cases ran : ((Client.waitResourceFree .volume "4" s).run c).1 with
    | error e => rw [ran] at answered; cases answered
    | ok u => rfl
  exact ⟨serves, freed,
    resource_free_only_after_quiet_first_page .volume "4" s history c serves freed⟩

theorem running_attach_past_first_page_is_missed :
    let answer : ByteArray := ("\x7b\"data\":[\x7b\"id\":2,\"action\":\"volume_create\"," ++
      "\"status\":\"finished\",\"entity\":\x7b\"id\":9,\"type\":\"volume\"\x7d\x7d]," ++
      "\"page\":1,\"pages\":2,\"results\":2\x7d").toUTF8
    let listed : List Event :=
      ((Json.decodeText (PageResult.decode Event.decode) answer).toOption.map (·.items)).getD []
    let attach : Event := { id := 1, status := .started, action := "volume_attach",
                            entity := some { id := .nat 4, type := .volume } }
    let feed : Feed := ⟨listed ++ [attach], 1, by decide, by decide +kernel⟩
    let c : Client :=
      { base := { scheme := "http", host := some (.domain "api"), path := .segments ["v4", ""] },
        token := none, userAgent := "ua", timeout := 1000, retry := .disabled,
        cache := Http.Cache.empty 900000, logging := {}, pollInterval := 1000,
        network := { send := fun _ _ => { answer := .ok { status := 200, body := answer } } } }
    (∀ r τ resp, (c.network.send r τ).answer = .ok resp → classify resp = none →
      ∀ page, Json.decodeText (PageResult.decode Event.decode) resp.body = .ok page →
        page.items = feed.firstPage (feedFilter .volume "4" none)) ∧
      attach ∈ feed.events ∧ attach.concerns .volume "4" = true ∧
      attach.status.isInProgress = true ∧
      ((Client.waitResourceFree .volume "4" { interval := 1000, timeout := 1000 }).run c).1 =
        .ok () := by
  intro answer listed attach feed c
  refine ⟨fun r τ resp sent _ page decoded => ?_, List.mem_append_right _ (List.mem_singleton_self _),
    rfl, rfl, ?_⟩
  · -- every answer is the one page, holding a single event newer than the attach
    have same : resp = { status := 200, body := answer } := (Except.ok.inj sent).symm
    subst same
    have shape : (Json.decodeText (PageResult.decode Event.decode) answer).toOption.map
        (fun p => p.items.map (·.id)) = some [2] := by decide +kernel
    rw [decoded] at shape
    obtain ⟨x, single, newer⟩ := List.map_eq_singleton_iff.1 (Option.some.inj shape)
    have shown : listed = [x] := by
      simp only [listed, decoded]
      exact single
    have sorted : [x, attach].mergeSort (fun a b => decide (b.id ≤ a.id)) = [x, attach] :=
      List.mergeSort_of_pairwise (by simp [attach, newer])
    simp only [Feed.firstPage, feed, shown, single]
    rw [show feedFilter .volume "4" none = none from rfl]
    simp only [Option.all_none, List.filter_true, List.singleton_append, sorted]
    rfl
  · have header := feedQuery_filterHeader_of_unfiltered (t := .volume) "4" rfl
    have answered : ((Client.waitResourceFree .volume "4" { interval := 1000, timeout := 1000 }).run
        c).1.toBool = true := by
      simp only [Client.waitResourceFree, Client.waitFor, Client.listEvents, Client.list, fetchAll,
        header]
      decide +kernel
    cases freed : ((Client.waitResourceFree .volume "4" { interval := 1000, timeout := 1000 }).run
        c).1 with
    | error e => rw [freed] at answered; cases answered
    | ok u => rfl

end CloudApi
