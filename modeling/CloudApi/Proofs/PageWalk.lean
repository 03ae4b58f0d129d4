import CloudApi.Query.Page

/-!
# Walking the pages of a list

Against a source answering its `n`-th call with `answer n`, `fetchAll` asks for pages `1` to `k`,
`k` the first page that fails, is empty or is the last, and returns its error or the items in
order (`fetchAll_walks_pages`). The 32-bit page count bounds every walk.
-/

namespace CloudApi

variable {α : Type}

/-- The page source that answers its `n`-th call with `answer n` and keeps its requests. -/
def scriptedFetch (answer : Nat → Except ClientError (PageResult α)) (req : PageRequest) :
    StateM (List PageRequest) (Except ClientError (PageResult α)) :=
  modifyGet fun log => (answer log.length, log ++ [req])

/-- Whether the answer for page `page` ends a walk. -/
def endsWalk (page : Nat) : Except ClientError (PageResult α) → Bool
  | .error _ => true
  | .ok r => r.items.isEmpty || decide (r.totalPages ≤ page)

/-- The items an answer carries; none for an error. -/
def itemsOf : Except ClientError (PageResult α) → List α
  | .ok r => r.items
  | .error _ => []

/-- What a walk over pages `first` to `k` gives. -/
def walkOutcome (answer : Nat → Except ClientError (PageResult α)) (first k : Nat) :
    Except ClientError (List α) :=
  match answer (k - 1) with
  | .error e => .error e
  | .ok _ => .ok ((List.range' first (k + 1 - first)).flatMap fun j => itemsOf (answer (j - 1)))

/-! ### One page -/

section Step

variable (o : ListOptions) (filter : Option String) (answer : Nat → Except ClientError (PageResult α))
  (fuel : Nat) (acc : List α) (log : List PageRequest)

theorem fetchFrom_error {e : ClientError} (failed : answer log.length = .error e) :
    (fetchFrom o filter (scriptedFetch answer) (fuel + 1) (log.length + 1) acc).run log =
      (.error e, log ++ [o.request (log.length + 1) filter]) := by
  simp [fetchFrom, scriptedFetch, failed]; rfl

theorem fetchFrom_last {r : PageResult α} (fetched : answer log.length = .ok r)
    (last : endsWalk (log.length + 1) (.ok r) = true) :
    (fetchFrom o filter (scriptedFetch answer) (fuel + 1) (log.length + 1) acc).run log =
      (.ok (acc ++ r.items), log ++ [o.request (log.length + 1) filter]) := by
  simp only [endsWalk, Bool.or_eq_true, List.isEmpty_iff, decide_eq_true_eq] at last
  simp [fetchFrom, scriptedFetch, fetched, last]; rfl

theorem fetchFrom_next {r : PageResult α} (fetched : answer log.length = .ok r)
    (more : endsWalk (log.length + 1) (.ok r) = false) :
    (fetchFrom o filter (scriptedFetch answer) (fuel + 1) (log.length + 1) acc).run log =
      (fetchFrom o filter (scriptedFetch answer) fuel (log.length + 1 + 1) (acc ++ r.items)).run
        (log ++ [o.request (log.length + 1) filter]) := by
  have going : ¬ (r.items = [] ∨ r.totalPages ≤ log.length + 1) := by
    simpa [endsWalk] using more
  simp [fetchFrom, scriptedFetch, fetched, going]

end Step

/-! ### A whole walk -/

theorem walkOutcome_step (answer : Nat → Except ClientError (PageResult α)) (acc : List α)
    {first k : Nat} {r : PageResult α} (before : first < k) (fetched : answer (first - 1) = .ok r) :
    (walkOutcome answer (first + 1) k).map (acc ++ r.items ++ ·) =
      (walkOutcome answer first k).map (acc ++ ·) := by
  have pages : k + 1 - first = (k + 1 - (first + 1)) + 1 := by omega
  unfold walkOutcome
  cases answer (k - 1) with
  | error e => rfl
  | ok _ =>
    simp only [Except.map, pages, List.range'_succ, List.flatMap_cons, itemsOf, fetched,
      List.append_assoc]

theorem fetchFrom_walk (o : ListOptions) (filter : Option String)
    (answer : Nat → Except ClientError (PageResult α)) (fuel : Nat) :
    ∀ (log : List PageRequest) (acc : List α),
      (∃ j, log.length < j ∧ j ≤ log.length + fuel ∧ endsWalk j (answer (j - 1))) →
      ∃ k, log.length < k ∧ k ≤ log.length + fuel ∧ endsWalk k (answer (k - 1)) ∧
        (∀ j, log.length < j → j < k → endsWalk j (answer (j - 1)) = false) ∧
        (fetchFrom o filter (scriptedFetch answer) fuel (log.length + 1) acc).run log =
          ((walkOutcome answer (log.length + 1) k).map (acc ++ ·),
            log ++ (List.range' (log.length + 1) (k - log.length)).map (o.request · filter)) := by
  -- the fuel bounds how many pages are left to ask for
  induction fuel with
  | zero =>
    rintro log acc ⟨j, after, within, _⟩
    omega
  | succ fuel ih =>
    rintro log acc ⟨j, after, within, ends⟩
    have here : (log.length + 1) - 1 = log.length := rfl
    cases fetched : answer log.length with
    | error e =>
      refine ⟨log.length + 1, by omega, by omega, by simp [here, fetched, endsWalk],
        fun j after before => by omega, ?_⟩
      rw [fetchFrom_error o filter answer fuel acc log fetched]
      simp [walkOutcome, here, fetched]; rfl
    | ok r =>
      cases last : endsWalk (log.length + 1) (.ok r) with
      | true =>
        refine ⟨log.length + 1, by omega, by omega, by rw [here, fetched]; exact last,
          fun j after before => by omega, ?_⟩
        rw [fetchFrom_last o filter answer fuel acc log fetched last]
        simp [walkOutcome, here, fetched, itemsOf]; rfl
      | false =>
        -- page `log.length + 1` goes on, so the page that ends the walk lies beyond it
        have goesOn : endsWalk (log.length + 1) (answer (log.length + 1 - 1)) = false := by
          rw [here, fetched]; exact last
        have sent : (log ++ [o.request (log.length + 1) filter]).length = log.length + 1 := by simp
        have beyond : ∃ j, (log ++ [o.request (log.length + 1) filter]).length < j ∧
            j ≤ (log ++ [o.request (log.length + 1) filter]).length + fuel ∧
            endsWalk j (answer (j - 1)) := by
          have other : j ≠ log.length + 1 := by
            rintro rfl
            rw [goesOn] at ends
            cases ends
          exact ⟨j, by omega, by omega, ends⟩
        obtain ⟨k, afterK, withinK, endsK, firstK, run⟩ := ih _ (acc ++ r.items) beyond
        rw [sent] at afterK withinK firstK run
        refine ⟨k, by omega, by omega, endsK, fun j after before => ?_, ?_⟩
        · by_cases next : j = log.length + 1
          · subst next; exact goesOn
          · exact firstK j (by omega) before
        · rw [fetchFrom_next o filter answer fuel acc log fetched last, run,
            walkOutcome_step answer acc afterK fetched]
          have pages : k - log.length = (k - (log.length + 1)) + 1 := by omega
          simp [pages, List.range'_succ]

/-- `fetchAll` asks for pages `1` to `k` in order, `k` the first page that fails, is empty or is
the last, and returns its error or the items of those pages. -/
theorem fetchAll_walks_pages (o : ListOptions) (answer : Nat → Except ClientError (PageResult α))
    (paged : ∀ n r, answer n = .ok r → r.totalPages ≤ lastPageNumber) :
    (∀ e, o.filterHeader = .error e → (fetchAll o (scriptedFetch answer)).run [] = (.error e, [])) ∧
    (∀ filter, o.filterHeader = .ok filter → o.page ≠ 0 →
      (fetchAll o (scriptedFetch answer)).run [] =
        ((answer 0).map (·.items), [o.request o.page filter])) ∧
    (∀ filter, o.filterHeader = .ok filter → o.page = 0 →
      ∃ k, 0 < k ∧ k ≤ lastPageNumber ∧ endsWalk k (answer (k - 1)) ∧
        (∀ j, 0 < j → j < k → endsWalk j (answer (j - 1)) = false) ∧
        (fetchAll o (scriptedFetch answer)).run [] =
          (walkOutcome answer 1 k, (List.range' 1 k).map (o.request · filter))) := by
  refine ⟨fun e refused => ?_, fun filter built named => ?_, fun filter built fromStart => ?_⟩
  · simp [fetchAll, refused]; rfl
  · simp only [fetchAll, built, ne_eq, named, not_false_eq_true, ↓reduceIte]
    cases fetched : answer 0 with
    | error e => simp [scriptedFetch, fetched]; rfl
    | ok r => simp [scriptedFetch, fetched]; rfl
  · -- page `lastPageNumber` ends the walk whatever it holds, so the fuel is enough
    have lastEnds : endsWalk lastPageNumber (answer (lastPageNumber - 1)) := by
      cases fetched : answer (lastPageNumber - 1) with
      | error e => rfl
      | ok r => simp [endsWalk, paged _ r fetched]
    obtain ⟨k, after, within, ends, first, run⟩ :=
      fetchFrom_walk o filter answer lastPageNumber [] []
        ⟨lastPageNumber, by decide, by simp, lastEnds⟩
    simp only [List.length_nil, Nat.zero_add, Nat.sub_zero, List.nil_append] at after within first run
    refine ⟨k, after, within, ends, first, ?_⟩
    simp only [fetchAll, built, fromStart, ne_eq, not_true_eq_false, ↓reduceIte]
    rw [run]
    cases walkOutcome answer 1 k with
    | error e => rfl
    | ok items => rfl

/-- Three pages of one item each, the last of them reporting itself as the last. -/
def threePages (n : Nat) : Except ClientError (PageResult Nat) :=
  .ok { items := [n], currentPage := n + 1, totalPages := 3 }

theorem three_pages_walk :
    (∀ n r, threePages n = .ok r → r.totalPages ≤ lastPageNumber) ∧
    (∀ e, ({} : ListOptions).filterHeader = .error e →
      (fetchAll {} (scriptedFetch threePages)).run [] = (.error e, [])) ∧
    (∀ filter, ({} : ListOptions).filterHeader = .ok filter → ({} : ListOptions).page ≠ 0 →
      (fetchAll {} (scriptedFetch threePages)).run [] =
        ((threePages 0).map (·.items), [({} : ListOptions).request ({} : ListOptions).page filter])) ∧
    (∀ filter, ({} : ListOptions).filterHeader = .ok filter → ({} : ListOptions).page = 0 →
      ∃ k, 0 < k ∧ k ≤ lastPageNumber ∧ endsWalk k (threePages (k - 1)) ∧
        (∀ j, 0 < j → j < k → endsWalk j (threePages (j - 1)) = false) ∧
        (fetchAll {} (scriptedFetch threePages)).run [] =
          (walkOutcome threePages 1 k, (List.range' 1 k).map (({} : ListOptions).request · filter))) := by
  have paged : ∀ n r, threePages n = .ok r → r.totalPages ≤ lastPageNumber := by
    intro n r fetched
    cases fetched
    show 3 ≤ lastPageNumber
    decide
  exact ⟨paged, fetchAll_walks_pages {} threePages paged⟩

example : (fetchAll {} (scriptedFetch threePages)).run [] =
    (.ok [0, 1, 2], [⟨1, 0, none⟩, ⟨2, 0, none⟩, ⟨3, 0, none⟩]) := by
  rfl

end CloudApi
