import CloudApi.Proofs.Calls
import CloudApi.Client.Events

/-!
# The watermark of an event poller

Every step of a primed poller moves the watermark only up, and a reported event lies above the
watermark its poll started from. So along every run reported ids strictly rise and none was in
the priming listing.
-/

namespace CloudApi

namespace EventPoller

/-- The event a poll reports: the finished one it returns, or the failed one its error carries. -/
def reported : Except ClientError (Option Event) → Option Event
  | .ok found => found
  | .error (.eventFailed _ e) => some e
  | .error _ => none

/-- What a poll does once the listing of the feed is in. -/
def cycle (p : EventPoller) (events : List Event) : Except ClientError (Option Event) × EventPoller :=
  if p.watermark.entityId.isEmpty then (.error p.unset, p) else p.examine events

theorem pollOnce_is_cycle (p : EventPoller) (c : Client) :
    let out := (Id.run (p.pollOnce.run.run c)).1
    (∃ e, out = (.error e, p)) ∨ ∃ events, out = p.cycle events := by
  intro out
  by_cases unset : p.watermark.entityId.isEmpty
  · refine .inr ⟨[], ?_⟩
    simp [out, pollOnce, cycle, unset, Call.run_pure]
  · simp only [out, pollOnce, unset, Bool.false_eq_true, ↓reduceIte, Call.run_bind,
      StateT.run_bind, Id.run_bind]
    cases listed : Id.run ((Client.listEvents p.query).run.run c) with
    | mk found c' =>
      cases found with
      | error e => exact .inl ⟨e, rfl⟩
      | ok events => exact .inr ⟨events, by simp [cycle, unset]; rfl⟩

/-- One thing done to a primed poller. -/
inductive Step where
  | setEntity (id : String)
  | since (instant : Stamp)
  | poll (listing : List Event)

/-- A step done to a poller: the event it reports, and the poller after it. -/
def Step.apply : Step → EventPoller → Option Event × EventPoller
  | .setEntity id, p => (none, p.setEntityId id)
  | .since instant, p => (none, p.withSince instant)
  | .poll events, p => (reported (p.cycle events).1, (p.cycle events).2)

/-- The pollers a run of steps passes through after `p`, and the events it reports. -/
def run (p : EventPoller) : List Step → List EventPoller × List Event
  | [] => ([], [])
  | s :: rest =>
    let (found, p') := s.apply p
    (p' :: (run p' rest).1, found.toList ++ (run p' rest).2)

@[simp] theorem seenUpTo_lastSeen (p : EventPoller) (id : Nat) :
    (p.seenUpTo id).watermark.lastSeen = id := rfl

theorem reported_failure (p : EventPoller) (e : Event) : reported (.error (p.failure e)) = some e :=
  rfl

theorem scan_moves_up (p : EventPoller) (floor : Nat) :
    ∀ (events : List Event) (newest : Nat) (pending : Option Nat), floor ≤ newest →
      (∀ q, pending = some q → floor < q) →
      ∃ m, (p.scan floor events newest pending).2 = p.seenUpTo m ∧ floor ≤ m ∧
        ∀ e, reported (p.scan floor events newest pending).1 = some e → floor < e.id ∧ m = e.id := by
  intro events
  induction events with
  | nil =>
    intro newest pending above pendingAbove
    refine ⟨_, rfl, ?_, fun e found => by simp [scan, reported] at found⟩
    cases pending with
    | none => exact above
    | some q => exact Nat.le_max_left _ _
  | cons e rest ih =>
    intro newest pending above pendingAbove
    simp only [scan]
    split
    · exact ih newest pending above pendingAbove
    · rename_i fresh
      have fresh : floor < e.id := Nat.lt_of_not_le fresh
      split
      · exact ih _ pending (Nat.le_trans above (Nat.le_max_left _ _)) pendingAbove
      · split
        · exact ⟨e.id, rfl, Nat.le_of_lt fresh, fun e' found => by
            simp only [reported, Option.some.injEq] at found; subst found; exact ⟨fresh, rfl⟩⟩
        · exact ⟨e.id, rfl, Nat.le_of_lt fresh, fun e' found => by
            rw [reported_failure, Option.some.injEq] at found; subst found; exact ⟨fresh, rfl⟩⟩
        · refine ih _ _ (Nat.le_trans above (Nat.le_max_left _ _)) ?_
          intro q settled
          cases pending with
          | none => cases settled; exact fresh
          | some q₀ =>
            cases settled
            exact Nat.lt_min.2 ⟨pendingAbove q₀ rfl, fresh⟩

theorem examine_moves_up (p : EventPoller) (events : List Event) :
    ∃ m, (p.examine events).2 = p.seenUpTo m ∧ p.watermark.lastSeen ≤ m ∧
      ∀ e, reported (p.examine events).1 = some e → p.watermark.lastSeen < e.id ∧ m = e.id :=
  p.scan_moves_up _ _ _ _ (Nat.le_refl _) (fun _ pending => by cases pending)

theorem Step.apply_moves_up (s : Step) (p : EventPoller) :
    p.watermark.lastSeen ≤ (s.apply p).2.watermark.lastSeen ∧
      ∀ e, (s.apply p).1 = some e →
        p.watermark.lastSeen < e.id ∧ (s.apply p).2.watermark.lastSeen = e.id := by
  cases s with
  | setEntity id => exact ⟨Nat.le_refl _, fun e found => by cases found⟩
  | since instant => exact ⟨Nat.le_refl _, fun e found => by cases found⟩
  | poll events =>
    simp only [Step.apply, cycle]
    split
    · exact ⟨Nat.le_refl _, fun e found => by simp [reported, unset] at found⟩
    · obtain ⟨m, moved, up, found⟩ := p.examine_moves_up events
      rw [moved, seenUpTo_lastSeen]
      exact ⟨up, fun e reports => let ⟨above, same⟩ := found e reports; ⟨above, same⟩⟩

theorem pairwise_le_cons_cons {a b : Nat} {l : List Nat} (le : a ≤ b)
    (ordered : (b :: l).Pairwise (· ≤ ·)) : (a :: b :: l).Pairwise (· ≤ ·) := by
  refine List.Pairwise.cons (fun x mem => ?_) ordered
  rcases List.mem_cons.1 mem with rfl | later
  · exact le
  · exact Nat.le_trans le (List.rel_of_pairwise_cons ordered later)

theorem run_moves_up (steps : List Step) : ∀ p : EventPoller,
    ((p :: (run p steps).1).map (·.watermark.lastSeen)).Pairwise (· ≤ ·) ∧
      ((run p steps).2.map (·.id)).Pairwise (· < ·) ∧
      ∀ e ∈ (run p steps).2, p.watermark.lastSeen < e.id := by
  induction steps with
  | nil => intro p; simp [run]
  | cons s rest ih =>
    intro p
    obtain ⟨rises, ordered, beyond⟩ := ih (s.apply p).2
    obtain ⟨up, found⟩ := s.apply_moves_up p
    simp only [List.map_cons] at rises
    simp only [run, List.map_cons]
    refine ⟨pairwise_le_cons_cons up rises, ?_, ?_⟩
    · cases reports : (s.apply p).1 with
      | none => simpa using ordered
      | some e =>
        obtain ⟨_, newest⟩ := found e reports
        simp only [Option.toList_some, List.cons_append, List.nil_append, List.map_cons,
          List.pairwise_cons, List.mem_map]
        refine ⟨?_, ordered⟩
        rintro _ ⟨e', later, rfl⟩
        exact newest ▸ beyond e' later
    · intro e reported
      rcases List.mem_append.1 reported with now | later
      · cases reports : (s.apply p).1 with
        | none => rw [reports] at now; cases now
        | some e' =>
          rw [reports, Option.mem_toList, Option.some.injEq] at now
          subst now
          exact (found _ reports).1
      · exact Nat.lt_of_le_of_lt up (beyond e later)

theorem primeFrom_covers (p : EventPoller) (listing : List Event) :
    p.watermark.lastSeen ≤ (p.primeFrom listing).watermark.lastSeen ∧
      ∀ e ∈ listing, p.matchesOperation e → e.id ≤ (p.primeFrom listing).watermark.lastSeen := by
  unfold primeFrom
  split
  · rename_i newest top
    have bound := (List.max?_eq_some_iff.1 top).2
    refine ⟨Nat.le_max_left _ _, fun e listed matched => ?_⟩
    have covered : e.id ≤ newest :=
      bound _ (List.mem_map_of_mem (List.mem_filter.2 ⟨listed, matched⟩))
    exact Nat.le_trans covered (Nat.le_max_right _ _)
  · rename_i none
    refine ⟨Nat.le_refl _, fun e listed matched => ?_⟩
    have empty := List.max?_eq_none_iff.1 none
    have : e.id ∈ (listing.filter p.matchesOperation).map (·.id) :=
      List.mem_map_of_mem (List.mem_filter.2 ⟨listed, matched⟩)
    rw [empty] at this
    cases this

/-- A primed poller's watermark never falls, its reported ids strictly rise, and none was an
event of the operation in its priming listing. -/
theorem primed_run_rises_and_reports_fresh (p : EventPoller) (listing : List Event)
    (steps : List Step) :
    let primed := p.primeFrom listing
    ((p :: primed :: (run primed steps).1).map (·.watermark.lastSeen)).Pairwise (· ≤ ·) ∧
      ((run primed steps).2.map (·.id)).Pairwise (· < ·) ∧
      ∀ e ∈ (run primed steps).2, ∀ e' ∈ listing, p.matchesOperation e' → e'.id < e.id := by
  intro primed
  obtain ⟨rises, ordered, beyond⟩ := run_moves_up steps primed
  obtain ⟨up, covered⟩ := p.primeFrom_covers listing
  simp only [List.map_cons] at rises ⊢
  exact ⟨pairwise_le_cons_cons up rises, ordered, fun e reported e' listed matched =>
    Nat.lt_of_le_of_lt (covered e' listed matched) (beyond e reported)⟩

end EventPoller

end CloudApi
