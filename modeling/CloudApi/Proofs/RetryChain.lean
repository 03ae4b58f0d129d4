import CloudApi.Proofs.RetrySchedule

/-!
# What the standard retry chain spares

The chain's later conditions leave out a 501 response and a 503 under maintenance, but its first,
`rate_limited`, matches any error mentioning "linode busy"; so such a response is retried exactly
when its error says the API is busy (`standard_chain_retries_excluded_only_when_busy`).
-/

namespace CloudApi.Retry

namespace Condition

/-- A response the standard chain means to leave alone. -/
def Excluded (i : Input) : Prop := i.status = 501 ∨ (i.status = 503 ∧ i.inMaintenance = true)

theorem rateLimited_test (i : Input) :
    rateLimited.test i = true ↔
      i.status = 429 ∨ ∃ e, i.error = some e ∧ e.hasReasonContaining "linode busy" = true := by
  cases found : i.error <;> simp [rateLimited, busyPhrases, found]

theorem standard_tail_skips {i : Input} (excluded : Excluded i) :
    ∀ c ∈ standard.tail, c.test i = false := by
  intro c mem
  simp only [standard, List.tail_cons, List.mem_cons, List.mem_nil_iff, or_false] at mem
  rcases excluded with status | ⟨status, maintenance⟩
  · rcases mem with rfl | rfl | rfl | rfl <;>
      simp [serviceUnavailable, transientServerError, requestTimeout, proxyBadRequest, status]
  · rcases mem with rfl | rfl | rfl | rfl <;>
      simp [serviceUnavailable, transientServerError, requestTimeout, proxyBadRequest, status,
        maintenance]

end Condition

namespace Policy

theorem shouldRetry_isRetry (p : Policy) (attempt : Nat) (i : Input) (sample : Float) :
    (p.shouldRetry attempt i sample).isRetry = p.conditions.any (·.test i) := by
  rw [← List.isSome_find?]
  unfold shouldRetry
  cases p.conditions.find? (·.test i) <;> rfl

theorem nextRetry_isRetry {p : Policy} {attempt : Nat} {waited : Span} {i : Input} {sample : Float}
    (retried : (p.nextRetry attempt waited i sample).isRetry = true) :
    (p.shouldRetry attempt i sample).isRetry = true := by
  cases decided : p.nextRetry attempt waited i sample with
  | stop => rw [decided] at retried; cases retried
  | retry cond s =>
    obtain ⟨-, -, wait, matched, -⟩ := Pipeline.nextRetry_eq_retry decided
    rw [matched]
    rfl

theorem standard_isRetry_of_excluded (p : Policy) (attempt : Nat) (sample : Float) {i : Input}
    (excluded : Condition.Excluded i) :
    ({ p with conditions := Condition.standard }.shouldRetry attempt i sample).isRetry =
      Condition.rateLimited.test i := by
  rw [shouldRetry_isRetry]
  have rest : Condition.standard.tail.any (·.test i) = false :=
    List.any_eq_false.2 fun c mem => by rw [Condition.standard_tail_skips excluded c mem]; simp
  simp only [Condition.standard, List.tail_cons, List.any_cons, List.any_nil] at rest ⊢
  rw [rest, Bool.or_false]

theorem standard_shouldRetry_of_rateLimited (p : Policy) (attempt : Nat) (sample : Float)
    {i : Input} (matched : Condition.rateLimited.test i = true) :
    { p with conditions := Condition.standard }.shouldRetry attempt i sample =
      .retry "rate_limited" (i.retryAfter.getD (p.backoff.delay attempt sample)) := by
  simp only [shouldRetry, Condition.standard, List.find?_cons, matched]
  rfl

end Policy

/-- Under the standard chain, whatever the budget, backoff and draw, an excluded response is
retried exactly when its error says the API is busy, and a 429 always is. -/
theorem standard_chain_retries_excluded_only_when_busy (p : Policy) (attempt : Nat) (waited : Span)
    (sample : Float) :
    let chain := { p with conditions := Condition.standard }
    (∀ i : Input, (i.status = 501 ∨ (i.status = 503 ∧ i.inMaintenance = true)) →
      ((chain.shouldRetry attempt i sample).isRetry = true ↔
        ∃ e, i.error = some e ∧ e.hasReasonContaining "linode busy" = true) ∧
      ((chain.nextRetry attempt waited i sample).isRetry = true →
        ∃ e, i.error = some e ∧ e.hasReasonContaining "linode busy" = true)) ∧
    (∀ i : Input, i.status = 429 →
      chain.shouldRetry attempt i sample =
        .retry "rate_limited" (i.retryAfter.getD (p.backoff.delay attempt sample))) := by
  intro chain
  refine ⟨fun i excluded => ?_, fun i tooMany => ?_⟩
  · -- the status is not 429, so `rate_limited` takes the response only for a busy reason
    have busy : Condition.rateLimited.test i = true ↔
        ∃ e, i.error = some e ∧ e.hasReasonContaining "linode busy" = true := by
      rw [Condition.rateLimited_test]
      rcases excluded with status | ⟨status, -⟩ <;> simp [status]
    have decided := Policy.standard_isRetry_of_excluded p attempt sample excluded
    refine ⟨by rw [decided]; exact busy, fun retried => ?_⟩
    rw [← busy, ← decided]
    exact Policy.nextRetry_isRetry retried
  · exact Policy.standard_shouldRetry_of_rateLimited p attempt sample
      ((Condition.rateLimited_test i).2 (.inl tooMany))

theorem busy_and_throttled_answers_are_retried :
    let chain : Policy := { ({} : Policy) with conditions := Condition.standard }
    let busy : Input := { status := 501, error := some (.ofReasons 501 [{ reason := "Linode busy" }]) }
    let throttled : Input := { status := 429 }
    busy.status = 501 ∧ (chain.shouldRetry 0 busy).isRetry = true ∧ throttled.status = 429 ∧
      chain.shouldRetry 0 throttled =
        .retry "rate_limited" (throttled.retryAfter.getD (({} : Policy).backoff.delay 0)) := by
  intro chain busy throttled
  obtain ⟨excluded, tooMany⟩ := standard_chain_retries_excluded_only_when_busy {} 0 ⟨0⟩ 0
  exact ⟨rfl, (excluded busy (.inl rfl)).1.2 ⟨_, rfl, by decide +kernel⟩, rfl, tooMany throttled rfl⟩

theorem busy_excluded_answers_are_retried :
    let body := "\x7b\"errors\":[\x7b\"reason\":\"Linode busy\"\x7d]\x7d".toUTF8
    let unimplemented : Http.Response := { status := 501, body }
    let maintenance : Http.Response :=
      { status := 503, headers := [{ name := "x-maintenance-mode", value := "1".toUTF8 }], body }
    let retried (r : Http.Response) : Option Bool :=
      (classify r).map fun e => (({} : Policy).nextRetry 0 ⟨0⟩ (.ofFailure r e)).isRetry
    maintenance.headers.contains "X-Maintenance-Mode" = true ∧
      retried unimplemented = some true ∧ retried maintenance = some true := by
  decide +kernel

end CloudApi.Retry
