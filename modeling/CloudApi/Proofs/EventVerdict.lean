import CloudApi.Proofs.EventWatermark

/-!
# What one look at a listing decides

`examine` looks at the events above the watermark by id. It reports the settling target of least
id and moves the watermark to it, or else moves it just below the least awaiting target, or to
the highest id listed (`examine_settles_lowest`).
-/

namespace CloudApi

theorem min?_eq_of_perm {l l' : List Nat} (h : l.Perm l') : l.min? = l'.min? := by
  cases low : l.min? with
  | none =>
    rw [List.min?_eq_none_iff] at low
    subst low
    rw [← List.Perm.nil_eq h]; rfl
  | some a =>
    obtain ⟨mem, least⟩ := List.min?_eq_some_iff.1 low
    exact (List.min?_eq_some_iff.2 ⟨h.subset mem, fun b mem' => least b (h.symm.subset mem')⟩).symm

namespace EventPoller

/-- A target of the operation above the watermark that finished or failed: it ends the poll. -/
def settles (p : EventPoller) (e : Event) : Bool :=
  decide (p.watermark.lastSeen < e.id) && p.isTarget e && e.status.isTerminal

/-- A target of the operation above the watermark that has not finished or failed yet. -/
def awaits (p : EventPoller) (e : Event) : Bool :=
  decide (p.watermark.lastSeen < e.id) && p.isTarget e && !e.status.isTerminal

/-- What a poll reports of the event that settles it. -/
def verdict (p : EventPoller) (e : Event) : Except ClientError (Option Event) :=
  if e.status = .finished then .ok (some e) else .error (p.failure e)

theorem settles_iff {p : EventPoller} {e : Event} :
    p.settles e ↔ p.watermark.lastSeen < e.id ∧ p.isTarget e ∧ e.status.isTerminal := by
  simp [settles, Bool.and_assoc]

theorem awaits_of_running {p : EventPoller} {e : Event} (above : ¬ e.id ≤ p.watermark.lastSeen)
    (target : p.isTarget e) (running : e.status.isTerminal = false) : p.awaits e := by
  simp [awaits, target, running]; omega

theorem running_of_unsettled {p : EventPoller} {e : Event} (fresh : ¬ e.id ≤ p.watermark.lastSeen)
    (target : p.isTarget e) (unsettled : p.settles e = false) : e.status.isTerminal = false := by
  simpa [settles, target, Nat.lt_of_not_le fresh] using unsettled

/-! ### The scan over a sorted listing -/

theorem scan_reaches_settled (p : EventPoller) {s : Event} (settled : p.settles s)
    (post : List Event) :
    ∀ (pre : List Event) (newest : Nat) (pending : Option Nat), (∀ e ∈ pre, p.settles e = false) →
      p.scan p.watermark.lastSeen (pre ++ s :: post) newest pending =
        (p.verdict s, p.seenUpTo s.id) := by
  intro pre
  induction pre with
  | nil =>
    intro newest pending _
    obtain ⟨above, target, terminal⟩ := settles_iff.1 settled
    have fresh : ¬ s.id ≤ p.watermark.lastSeen := by omega
    simp only [List.nil_append, scan, fresh, ↓reduceIte, target, Bool.not_true,
      Bool.false_eq_true]
    cases status : s.status <;> simp [status, EventStatus.isTerminal, verdict] at terminal ⊢
  | cons e pre ih =>
    intro newest pending quiet
    have rest : ∀ e' ∈ pre, p.settles e' = false := fun e' mem => quiet e' (List.mem_cons_of_mem _ mem)
    have unsettled := quiet e List.mem_cons_self
    simp only [List.cons_append, scan]
    split
    · exact ih newest pending rest
    · rename_i fresh
      split
      · exact ih _ pending rest
      · rename_i target
        rw [Bool.not_eq_true', Bool.not_eq_false] at target
        have running := running_of_unsettled fresh target unsettled
        split
        · rename_i finished; simp [finished, EventStatus.isTerminal] at running
        · rename_i failed; simp [failed, EventStatus.isTerminal] at running
        · exact ih _ _ rest

theorem scan_quiet (p : EventPoller) :
    ∀ (l : List Event) (newest : Nat) (pending : Option Nat), p.watermark.lastSeen ≤ newest →
      (∀ e ∈ l, p.settles e = false) →
      p.scan p.watermark.lastSeen l newest pending =
        (.ok none, p.seenUpTo ((pending.toList ++ (l.filter p.awaits).map (·.id)).min?.elim
          (l.foldl (fun m e => max m e.id) newest) (fun q => max p.watermark.lastSeen (q - 1)))) := by
  intro l
  induction l with
  | nil =>
    intro newest pending _ _
    cases pending <;> rfl
  | cons e rest ih =>
    intro newest pending above quiet
    have restQuiet : ∀ e' ∈ rest, p.settles e' = false :=
      fun e' mem => quiet e' (List.mem_cons_of_mem _ mem)
    have unsettled := quiet e List.mem_cons_self
    simp only [scan]
    split
    · -- at or below the watermark: nothing changes
      rename_i old
      have idle : p.awaits e = false := by simp [awaits]; omega
      have same : max newest e.id = newest := Nat.max_eq_left (by omega)
      rw [ih newest pending above restQuiet, List.filter_cons_of_neg (by simp [idle]),
        List.foldl_cons, same]
    · rename_i fresh
      have raised : p.watermark.lastSeen ≤ max newest e.id := Nat.le_trans above (Nat.le_max_left _ _)
      split
      · rename_i other
        have idle : p.awaits e = false := by simp_all [awaits]
        rw [ih _ pending raised restQuiet, List.filter_cons_of_neg (by simp [idle]), List.foldl_cons]
      · rename_i target
        rw [Bool.not_eq_true', Bool.not_eq_false] at target
        have running := running_of_unsettled fresh target unsettled
        split
        · rename_i finished; simp [finished, EventStatus.isTerminal] at running
        · rename_i failed; simp [failed, EventStatus.isTerminal] at running
        · rw [ih _ _ raised restQuiet,
            List.filter_cons_of_pos (awaits_of_running fresh target running), List.foldl_cons]
          -- the running event joins the least pending id
          cases pending <;> rfl

/-! ### The poll's verdict -/

/-- One look at a listing reports the settling target of least id and moves the watermark to it,
or else moves it just below the least running target above it, or up to the highest id listed. -/
theorem examine_settles_lowest (p : EventPoller) (events : List Event) :
    ((∃ e ∈ events, p.settles e) →
      ∃ s ∈ events, p.settles s ∧ (∀ e ∈ events, p.settles e → s.id ≤ e.id) ∧
        p.examine events = (p.verdict s, p.seenUpTo s.id)) ∧
    ((∀ e ∈ events, p.settles e = false) →
      p.examine events = (.ok none, p.seenUpTo
        ((((events.filter p.awaits).map (·.id)).min?).elim
          (events.foldl (fun m e => max m e.id) p.watermark.lastSeen) (· - 1))) ∧
      ∀ q, ((events.filter p.awaits).map (·.id)).min? = some q → p.watermark.lastSeen < q) := by
  have sorted : (events.mergeSort fun a b => decide (a.id ≤ b.id)).Pairwise
      (fun a b => decide (a.id ≤ b.id)) :=
    List.pairwise_mergeSort (fun a b c ab bc => by simp at ab bc ⊢; omega)
      (fun a b => by simp; omega) events
  have perm := List.mergeSort_perm events fun a b : Event => decide (a.id ≤ b.id)
  refine ⟨fun ⟨e, listed, settled⟩ => ?_, fun quiet => ?_⟩
  · -- the scan stops at the first settling event of the sorted listing
    have found : ∃ s, (events.mergeSort fun a b => decide (a.id ≤ b.id)).find? p.settles = some s := by
      apply Option.isSome_iff_exists.1
      exact List.find?_isSome.2 ⟨e, perm.symm.subset listed, settled⟩
    obtain ⟨s, first⟩ := found
    obtain ⟨settledS, pre, post, split, before⟩ := List.find?_eq_some_iff_append.1 first
    have preQuiet : ∀ e ∈ pre, p.settles e = false := fun e mem => by simpa using before e mem
    refine ⟨s, perm.subset (by rw [split]; simp), settledS, fun e' listed' settled' => ?_, ?_⟩
    · have inSorted := perm.symm.subset listed'
      rw [split] at inSorted sorted
      rcases List.mem_append.1 inSorted with early | late
      · rw [preQuiet e' early] at settled'; cases settled'
      · rcases List.mem_cons.1 late with same | after
        · subst same; exact Nat.le_refl _
        · have := List.rel_of_pairwise_cons (List.pairwise_append.1 sorted).2.1 after
          simpa using this
    · rw [examine, split]
      exact p.scan_reaches_settled settledS post pre _ none preQuiet
  · have sortedQuiet : ∀ e ∈ events.mergeSort (fun a b => decide (a.id ≤ b.id)),
        p.settles e = false := fun e mem => quiet e (perm.subset mem)
    have awaiting := (perm.filter p.awaits).map (·.id)
    refine ⟨?_, fun q least => ?_⟩
    · rw [examine, p.scan_quiet _ _ none (Nat.le_refl _) sortedQuiet, Option.toList_none,
        List.nil_append, min?_eq_of_perm awaiting,
        perm.foldl_eq' (fun _ _ _ _ _ => by omega)]
      cases low : ((events.filter p.awaits).map (·.id)).min? with
      | none => rfl
      | some q =>
        obtain ⟨mem, _⟩ := List.min?_eq_some_iff.1 low
        obtain ⟨a, kept, rfl⟩ := List.mem_map.1 mem
        have above : p.watermark.lastSeen < a.id := by
          simp [awaits] at kept; exact kept.2.1.1
        simp only [Option.elim]
        rw [Nat.max_eq_right (by omega)]
    · obtain ⟨mem, _⟩ := List.min?_eq_some_iff.1 least
      obtain ⟨a, kept, rfl⟩ := List.mem_map.1 mem
      simp [awaits] at kept
      exact kept.2.1.1

theorem examine_found {p : EventPoller} {events : List Event} {e : Event}
    (found : (p.examine events).1 = .ok (some e)) : e.status = .finished ∧ p.isTarget e = true := by
  obtain ⟨settling, quiet⟩ := p.examine_settles_lowest events
  by_cases some_settles : ∃ e ∈ events, p.settles e
  · obtain ⟨s, -, settled, -, examined⟩ := settling some_settles
    obtain ⟨-, target, -⟩ := settles_iff.1 settled
    rw [examined] at found
    unfold verdict at found
    split at found
    · cases found
      exact ⟨‹_›, target⟩
    · cases found
  · have none_settle : ∀ e ∈ events, p.settles e = false := by simpa using some_settles
    rw [(quiet none_settle).1] at found
    cases found

end EventPoller

end CloudApi
