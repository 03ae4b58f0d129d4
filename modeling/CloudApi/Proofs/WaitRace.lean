import CloudApi.Wait.Poll

/-!
# How one race of a wait ends

A step already done wins at once (`race_at_once`); otherwise the first instant anyone is due
decides the race (`race_silent`, `race_alarmed`).
-/

namespace CloudApi.Wait

/-- The canceller of a wait, its alarm set before the waiter's own (`first`) or after them. -/
def alarmOf (cancel : Option Nat) (first : Bool) : Alarm :=
  match cancel with
  | none => .silent
  | some t => if first then .unarmed t else .armed t

theorem decided_early (alarm : Alarm) (unrung : alarm ≠ .rung) {now deadline : Nat}
    (early : now < deadline) : decided alarm now deadline = none := by
  cases alarm <;> simp_all [decided, Nat.not_le.2 early] <;> rfl

theorem decided_alarmOf (cancel : Option Nat) (first : Bool) (now deadline : Nat)
    (early : now < deadline) : decided (alarmOf cancel first) now deadline = none := by
  cases cancel with
  | none => simp [decided, alarmOf, Nat.not_le.2 early]; rfl
  | some t => cases first <;> simp [decided, alarmOf, Nat.not_le.2 early] <;> rfl

theorem race_at_once (cancel : Option Nat) (first : Bool) (now deadline finish : Nat)
    (early : now < deadline) (ready : finish ≤ now) :
    race (alarmOf cancel first) now deadline finish = ⟨.step, now, alarmOf cancel first⟩ := by
  simp [race, decided_alarmOf cancel first now deadline early, ready]

theorem race_silent (first : Bool) {now deadline finish : Nat} {yields : Bool}
    (early : now < deadline) (waits : now < finish ∨ yields = true) :
    race (alarmOf none first) now deadline finish yields =
      if deadline ≤ finish then ⟨.deadline, deadline, .silent⟩
      else ⟨.step, finish, .silent⟩ := by
  have notReady : (decide (finish ≤ now) && !yields) = false := by
    rcases waits with waiting | yielding
    · simp [Nat.not_le.2 waiting]
    · simp [yielding]
  unfold alarmOf race
  simp only [decided_early .silent (by simp) early, notReady, Bool.false_eq_true, ↓reduceIte,
    Option.none_beq_some, Bool.false_and, beq_iff_eq]
  have firstDue : min deadline finish ≤ deadline ∧ min deadline finish ≤ finish ∧
      (min deadline finish = deadline ∨ min deadline finish = finish) := by omega
  generalize min deadline finish = m at *
  repeat' split
  all_goals
    first | rfl | (exfalso; omega) | (simp only [Race.mk.injEq, true_and, and_true]; omega)

theorem race_alarmed (t : Nat) (first : Bool) {now deadline finish : Nat} {yields : Bool}
    (early : now < deadline) (waits : now < finish ∨ yields = true) :
    race (alarmOf (some t) first) now deadline finish yields =
      if t < min deadline finish ∨ (t = min deadline finish ∧
          (first = false ∨ (yields = true ∧ finish < deadline))) then
        ⟨.cancel, t, .rung⟩
      else if deadline ≤ finish then ⟨.deadline, deadline, .armed t⟩
      else ⟨.step, finish, .armed t⟩ := by
  have notReady : (decide (finish ≤ now) && !yields) = false := by
    rcases waits with waiting | yielding
    · simp [Nat.not_le.2 waiting]
    · simp [yielding]
  have unrung : alarmOf (some t) first ≠ .rung := by cases first <;> simp [alarmOf]
  unfold race
  simp only [decided_early _ unrung early, notReady, Bool.false_eq_true, ↓reduceIte]
  cases first <;> cases yields
  all_goals
    simp only [alarmOf, Bool.false_eq_true, ↓reduceIte, Bool.and_eq_true,
      Bool.not_eq_true', beq_iff_eq, Option.some.injEq, Bool.not_false, Bool.true_and,
      Bool.and_true, Bool.true_or, Bool.false_or, Bool.not_true, Bool.or_eq_false_iff,
      beq_eq_false_iff_ne, and_true, Bool.true_eq_false, and_false, or_false, true_and, false_and,
      Bool.false_and, Bool.or_false, true_or, false_or]
    -- name the instants that are due, so that only linear facts are left
    have firstDue : min deadline finish ≤ deadline ∧ min deadline finish ≤ finish ∧
        (min deadline finish = deadline ∨ min deadline finish = finish) := by omega
    generalize min deadline finish = m at *
    have due : min t m ≤ t ∧ min t m ≤ m ∧ (min t m = t ∨ min t m = m) := by omega
    generalize min t m = soonest at *
    repeat' split
    all_goals
      first | rfl | (exfalso; omega) | (simp only [Race.mk.injEq, true_and, and_true]; omega)

theorem decided_late (cancel : Option Nat) (first : Bool) {now deadline : Nat}
    (late : deadline ≤ now) : decided (alarmOf cancel first) now deadline = some .deadline := by
  cases cancel with
  | none => simp [decided, alarmOf, late]; rfl
  | some t => cases first <;> simp [decided, alarmOf, late] <;> rfl

section Waiting

variable {cancel : Option Nat} {first : Bool} {now deadline finish : Nat} {yields : Bool}

theorem not_cut {t m : Nat} {tied : Prop} (later : m < t ∨ (t = m ∧ first = true ∧ ¬ tied)) :
    ¬ (t < m ∨ (t = m ∧ (first = false ∨ tied))) := by
  rintro (before | ⟨rfl, notFirst | isTied⟩)
  · rcases later with after | ⟨rfl, _⟩ <;> omega
  · rcases later with after | ⟨_, firstly, _⟩
    · exact Nat.lt_irrefl _ after
    · rw [firstly] at notFirst
      cases notFirst
  · rcases later with after | ⟨_, _, untied⟩
    · exact Nat.lt_irrefl _ after
    · exact untied isTied

theorem race_wait_cancel {t : Nat} (due : cancel = some t)
    (cut : t < min deadline finish ∨
      (t = min deadline finish ∧ (first = false ∨ (yields = true ∧ finish < deadline))))
    (early : now < deadline) (waits : now < finish ∨ yields = true) :
    race (alarmOf cancel first) now deadline finish yields = ⟨.cancel, t, .rung⟩ := by
  subst due
  rw [race_alarmed _ _ early waits, if_pos cut]

theorem race_wait_deadline (late : deadline ≤ finish)
    (uncut : ∀ t, cancel = some t → deadline < t ∨ (t = deadline ∧ first = true))
    (early : now < deadline) (waits : now < finish ∨ yields = true) :
    race (alarmOf cancel first) now deadline finish yields =
      ⟨.deadline, deadline, alarmOf cancel false⟩ := by
  cases cancel with
  | none => rw [race_silent _ early waits, if_pos late]; rfl
  | some t =>
    -- at the deadline the step is not yet done, so it cannot tie with the canceller
    have notSooner : ¬ (yields = true ∧ finish < deadline) := fun ⟨_, sooner⟩ =>
      Nat.not_le.2 sooner late
    have kept : ¬ (t < min deadline finish ∨ (t = min deadline finish ∧
        (first = false ∨ (yields = true ∧ finish < deadline)))) := not_cut <| by
      rw [Nat.min_eq_left late]
      rcases uncut t rfl with after | ⟨same, firstly⟩
      · exact .inl after
      · exact .inr ⟨same, firstly, notSooner⟩
    rw [race_alarmed _ _ early waits, if_neg kept, if_pos late]
    rfl

theorem race_wait_step (sooner : finish < deadline)
    (uncut : ∀ t, cancel = some t → finish < t ∨ (t = finish ∧ first = true ∧ yields = false))
    (early : now < deadline) (waits : now < finish ∨ yields = true) :
    race (alarmOf cancel first) now deadline finish yields =
      ⟨.step, finish, alarmOf cancel false⟩ := by
  have notLate : ¬ deadline ≤ finish := Nat.not_le.2 sooner
  cases cancel with
  | none => rw [race_silent _ early waits, if_neg notLate]; rfl
  | some t =>
    have kept : ¬ (t < min deadline finish ∨ (t = min deadline finish ∧
        (first = false ∨ (yields = true ∧ finish < deadline)))) := not_cut <| by
      rw [Nat.min_eq_right (Nat.le_of_lt sooner)]
      rcases uncut t rfl with after | ⟨same, firstly, quiet⟩
      · exact .inl after
      · exact .inr ⟨same, firstly, by simp [quiet]⟩
    rw [race_alarmed _ _ early waits, if_neg kept, if_neg notLate]
    rfl

theorem uncut_of_not {m : Nat} {tied : Prop}
    (h : ¬ ∃ t, cancel = some t ∧ (t < m ∨ (t = m ∧ (first = false ∨ tied)))) :
    ∀ t, cancel = some t → m < t ∨ (t = m ∧ first = true ∧ ¬ tied) := by
  intro t due
  by_cases before : t < m
  · exact absurd ⟨t, due, .inl before⟩ h
  · rcases Nat.lt_or_eq_of_le (Nat.not_lt.1 before) with after | same
    · exact .inl after
    · subst same
      cases first
      · exact absurd ⟨m, due, .inr ⟨rfl, .inl rfl⟩⟩ h
      · exact .inr ⟨rfl, rfl, fun isTied => h ⟨m, due, .inr ⟨rfl, .inr isTied⟩⟩⟩

end Waiting

end CloudApi.Wait
