import CloudApi.Proofs.EventWatermark

/-!
# What a poll sees of the feed

A poll that reports nothing keeps its watermark below every target above it that page 1 of its
listing shows (`cycle_quiet_keeps_listed_targets`); a target beyond page 1 gets no such care
(`page_cut_hides_pending_target`).
-/

namespace CloudApi

/-- What an event holds in a column the feed is filtered on. -/
def Event.column (e : Event) : String → Option Json
  | "id" => some (.nat e.id)
  | "entity.id" => e.entity.map (·.id)
  | "entity.type" => e.entity.map fun ent => .str ent.type.name
  | _ => none

mutual

/-- Whether an event passes a filter as the server reads one. -/
def Filter.admits (e : Event) : Filter → Bool
  | .compare column .eq value => (e.column column).any (· == value)
  | .compare column .gt (.num (.nat bound)) =>
    match e.column column with
    | some (.num (.nat v)) => bound < v
    | _ => false
  | .compare _ _ _ => false
  | .all children => Filter.admitsAll e children
  | .any children => Filter.admitsAny e children

/-- Whether an event passes every filter of a list. -/
def Filter.admitsAll (e : Event) : List Filter → Bool
  | [] => true
  | c :: cs => c.admits e && Filter.admitsAll e cs

/-- Whether an event passes some filter of a list. -/
def Filter.admitsAny (e : Event) : List Filter → Bool
  | [] => false
  | c :: cs => c.admits e || Filter.admitsAny e cs

end

/-- An account's event feed as the server holds it, served in pages of `pageSize`. -/
structure Feed where
  events : List Event
  pageSize : Nat
  positive : 0 < pageSize
  distinct : (events.map (·.id)).Nodup

/-- Page 1 of the events a filter admits, newest first: a newer event has a larger id. -/
def Feed.firstPage (f : Feed) (filter : Option Filter) : List Event :=
  ((f.events.filter fun e => filter.all (Filter.admits e)).mergeSort fun a b => b.id ≤ a.id).take
    f.pageSize

namespace EventPoller

/-- The filter of the next poll's feed query. -/
def pollFilter (p : EventPoller) : Option Filter :=
  feedFilter p.watermark.entityType p.watermark.entityId (some p.watermark.lastSeen)

theorem query_filter (p : EventPoller) : p.query.filter = p.pollFilter.map Filter.render := rfl

theorem scan_quiet_keeps_targets (p : EventPoller) (floor : Nat) :
    ∀ (events : List Event) (newest : Nat) (pending : Option Nat),
      (∀ q, pending = some q → floor < q) →
      reported (p.scan floor events newest pending).1 = none →
      (∀ q, pending = some q → (p.scan floor events newest pending).2.watermark.lastSeen < q) ∧
        ∀ e ∈ events, p.isTarget e → floor < e.id →
          (p.scan floor events newest pending).2.watermark.lastSeen < e.id := by
  -- the oldest pending target met so far bounds where the scan can end
  intro events
  induction events with
  | nil =>
    intro newest pending pendingAbove _
    refine ⟨fun q held => ?_, fun e listed => by cases listed⟩
    subst held
    have := pendingAbove q rfl
    simp only [scan, seenUpTo_lastSeen]
    omega
  | cons e rest ih =>
    intro newest pending pendingAbove quiet
    generalize run : p.scan floor (e :: rest) newest pending = out at quiet ⊢
    simp only [scan] at run
    split at run
    · rename_i old
      subst run
      obtain ⟨held, later⟩ := ih newest pending pendingAbove quiet
      refine ⟨held, fun e' listed target above => ?_⟩
      rcases List.mem_cons.1 listed with rfl | listed
      · omega
      · exact later e' listed target above
    · rename_i fresh
      have freshId : floor < e.id := Nat.lt_of_not_le fresh
      split at run
      · rename_i other
        subst run
        obtain ⟨held, later⟩ := ih _ pending pendingAbove quiet
        refine ⟨held, fun e' listed target above => ?_⟩
        rcases List.mem_cons.1 listed with rfl | listed
        · simp [target] at other
        · exact later e' listed target above
      · split at run
        · subst run; cases quiet
        · subst run; simp [reported_failure] at quiet
        · subst run
          obtain ⟨held, later⟩ := ih _ _ (by
            intro q same
            cases same
            cases pending with
            | none => exact freshId
            | some q => exact Nat.lt_min.2 ⟨pendingAbove q rfl, freshId⟩) quiet
          have below := held _ rfl
          refine ⟨fun q same => ?_, fun e' listed target' above => ?_⟩
          · subst same; exact Nat.lt_of_lt_of_le below (Nat.min_le_left _ _)
          · rcases List.mem_cons.1 listed with rfl | listed
            · cases pending with
              | none => exact below
              | some q => exact Nat.lt_of_lt_of_le below (Nat.min_le_right _ _)
            · exact later e' listed target' above

theorem cycle_quiet_keeps_listed_targets (p : EventPoller) (events : List Event)
    (quiet : reported (p.cycle events).1 = none) :
    ∀ e ∈ events, p.isTarget e → p.watermark.lastSeen < e.id →
      (p.cycle events).2.watermark.lastSeen < e.id := by
  intro e listed target above
  unfold cycle at quiet ⊢
  split
  · exact above
  · rename_i set
    rw [if_neg set] at quiet
    exact (p.scan_quiet_keeps_targets _ _ _ _ (fun _ none => by cases none) quiet).2 e
      (List.mem_mergeSort.2 listed) target above

/-- When the admitted events fit in one page, a quiet poll keeps its watermark below every
admitted target that was above it. -/
theorem quiet_poll_keeps_admitted_targets (f : Feed) (p : EventPoller)
    (fits : (f.events.filter fun e => p.pollFilter.all (Filter.admits e)).length ≤ f.pageSize)
    (quiet : reported (p.cycle (f.firstPage p.pollFilter)).1 = none)
    (e : Event) (held : e ∈ f.events) (admitted : p.pollFilter.all (Filter.admits e))
    (target : p.isTarget e) (above : p.watermark.lastSeen < e.id) :
    (p.cycle (f.firstPage p.pollFilter)).2.watermark.lastSeen < e.id := by
  have listed : e ∈ f.firstPage p.pollFilter := by
    rw [Feed.firstPage, List.take_of_length_le (by rw [List.length_mergeSort]; exact fits),
      List.mem_mergeSort, List.mem_filter]
    exact ⟨held, admitted⟩
  exact p.cycle_quiet_keeps_listed_targets _ quiet e listed target above

theorem pending_boot_stays_above :
    let boot : Event := { id := 1, status := .started, action := "linode_boot",
                          entity := some { id := .nat 11, type := .linode } }
    let f : Feed := ⟨[boot], 1, by decide, by decide⟩
    let p : EventPoller :=
      { watermark := { entityId := "11", entityType := .linode, action := "linode_boot" } }
    (f.events.filter fun e => p.pollFilter.all (Filter.admits e)).length ≤ f.pageSize ∧
      reported (p.cycle (f.firstPage p.pollFilter)).1 = none ∧ boot ∈ f.events ∧
      p.pollFilter.all (Filter.admits boot) ∧ p.isTarget boot ∧ p.watermark.lastSeen < boot.id ∧
      (p.cycle (f.firstPage p.pollFilter)).2.watermark.lastSeen < boot.id := by
  intro boot f p
  have fits : (f.events.filter fun e => p.pollFilter.all (Filter.admits e)).length ≤ f.pageSize := by
    decide +kernel
  have page : f.firstPage p.pollFilter = [boot] := by
    have admitted : [boot].filter (fun e => p.pollFilter.all (Filter.admits e)) = [boot] :=
      List.filter_eq_self.2 (by decide +kernel)
    simp only [Feed.firstPage, f, admitted, List.mergeSort_singleton]
    rfl
  have quiet : reported (p.cycle (f.firstPage p.pollFilter)).1 = none := by
    rw [page]
    simp only [cycle, examine, List.mergeSort_singleton]
    rfl
  exact ⟨fits, quiet, List.mem_cons_self, by decide +kernel, by decide +kernel, by decide,
    quiet_poll_keeps_admitted_targets f p fits quiet boot List.mem_cons_self (by decide +kernel)
      (by decide +kernel) (by decide)⟩

theorem page_cut_hides_pending_target :
    let boot : Event := { id := 1, status := .started, action := "linode_boot",
                          entity := some { id := .nat 11, type := .linode } }
    let shutdown : Event := { id := 2, status := .finished, action := "linode_shutdown",
                              entity := some { id := .nat 11, type := .linode } }
    let f : Feed := ⟨[shutdown, boot], 1, by decide, by decide⟩
    let p : EventPoller := { watermark := { entityId := "11", entityType := .linode, action := "linode_boot" } }
    reported (p.cycle (f.firstPage p.pollFilter)).1 = none ∧ boot ∈ f.events ∧ p.isTarget boot ∧
      p.watermark.lastSeen < boot.id ∧ p.pollFilter.all (Filter.admits boot) ∧
      boot.id ≤ (p.cycle (f.firstPage p.pollFilter)).2.watermark.lastSeen := by
  intro boot shutdown f p
  -- both events pass the filter, and the page of one shows only the newer
  have page : f.firstPage p.pollFilter = [shutdown] := by
    have admitted : [shutdown, boot].filter (fun e => p.pollFilter.all (Filter.admits e)) =
        [shutdown, boot] := List.filter_eq_self.2 (by decide +kernel)
    simp only [Feed.firstPage, f, admitted]
    rw [List.mergeSort_of_pairwise (by decide)]
    rfl
  have seen : p.cycle [shutdown] = (.ok none, p.seenUpTo 2) := by
    simp only [cycle, examine, List.mergeSort_singleton]
    rfl
  rw [page, seen]
  exact ⟨rfl, List.mem_cons_of_mem _ List.mem_cons_self, by decide +kernel, by decide,
    by decide +kernel, by decide⟩

end EventPoller

end CloudApi
