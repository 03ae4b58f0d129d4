import Mathlib
import CloudApi.Api.Error
import CloudApi.Proofs.TextCut

/-!
# Classifying a failed response

`classify` gives no error exactly for a 2xx status; otherwise the body decides the error: a raw
message for JSON without a list of reasons, else the listed reasons with the first as message,
or the status text when none is listed (`classify_reads_body`).
-/

namespace CloudApi

/-! ### What the body decides -/

/-- The reasons a body lists, when it is JSON whose error envelope has a list under `errors`. -/
def listedReasons (body : ByteArray) : Option (List Reason) :=
  match Json.parse body with
  | .ok v =>
    match Json.decodeValue ErrorBody.decode v with
    | .ok ⟨some rs⟩ => some rs
    | _ => none
  | .error _ => none

/-- A body that is JSON but no error envelope with a list under `errors`. -/
def JsonWithoutReasons (body : ByteArray) : Prop :=
  (∃ v, Json.parse body = .ok v) ∧ listedReasons body = none

/-- What `classify` keeps of a body that is JSON without a list of reasons. -/
def rawError (r : Http.Response) : ApiError :=
  let raw := Utf8.truncateBytes (Utf8.decodeLossy r.body) rawMessageLimit
  { code := r.status, message := raw, rawMessage := some raw }

theorem parse_fails_of_isEmpty {body : ByteArray} (empty : body.isEmpty = true) :
    ∀ v, Json.parse body ≠ .ok v := by
  intro v parsed
  have nothing : body = ByteArray.empty :=
    ByteArray.size_eq_zero_iff.1 (by simpa [ByteArray.isEmpty] using empty)
  have failing : (Json.parse ByteArray.empty).toOption = none := by rfl
  rw [← nothing, parsed] at failing
  cases failing

theorem isEmpty_false_of_parsed {body : ByteArray} {v : Json} (parsed : Json.parse body = .ok v) :
    body.isEmpty = false := by
  cases empty : body.isEmpty with
  | false => rfl
  | true => exact absurd parsed (parse_fails_of_isEmpty empty v)

section Classify

variable {r : Http.Response} (failed : Http.Status.isSuccess r.status = false)
include failed

theorem classify_of_listed {rs : List Reason} (listed : listedReasons r.body = some rs) :
    classify r = some (.ofReasons r.status rs) := by
  unfold listedReasons at listed
  unfold classify
  rw [failed]
  simp only [Bool.false_eq_true, ↓reduceIte]
  split at listed
  · rename_i v parsed
    -- a listed body is JSON, so it is not empty
    rw [isEmpty_false_of_parsed parsed, parsed]
    simp only [Bool.false_eq_true, ↓reduceIte]
    split at listed
    · rename_i decoded
      cases listed
      simp only [decoded]
      cases rs <;> rfl
    · cases listed
  · cases listed

theorem classify_of_unparsed (unparsed : ∀ v, Json.parse r.body ≠ .ok v) :
    classify r = some (.ofStatus r.status) := by
  unfold classify
  rw [failed]
  simp only [Bool.false_eq_true, ↓reduceIte]
  split
  · rfl
  · cases parsed : Json.parse r.body with
    | error _ => rfl
    | ok v => exact absurd parsed (unparsed v)

theorem classify_of_unlisted (unlisted : JsonWithoutReasons r.body) :
    classify r = some (rawError r) := by
  obtain ⟨⟨v, parsed⟩, absent⟩ := unlisted
  unfold listedReasons at absent
  rw [parsed] at absent
  unfold classify
  rw [failed, isEmpty_false_of_parsed parsed, parsed]
  simp only [Bool.false_eq_true, ↓reduceIte]
  split
  · rename_i decoded; simp [decoded] at absent
  · rename_i decoded; simp [decoded] at absent
  · rfl

end Classify

theorem body_cases (body : ByteArray) :
    (∃ rs, listedReasons body = some rs) ∨ JsonWithoutReasons body ∨
      ∀ v, Json.parse body ≠ .ok v := by
  cases listed : listedReasons body with
  | some rs => exact .inl ⟨rs, rfl⟩
  | none =>
    cases parsed : Json.parse body with
    | ok v => exact .inr (.inl ⟨⟨v, parsed⟩, listed⟩)
    | error e => exact .inr (.inr fun v same => by cases same)

/-- `classify` gives no error exactly for a 2xx status; otherwise the body decides the error's
raw message, reasons and message, with the status as its code. -/
theorem classify_reads_body (r : Http.Response) :
    (classify r = none ↔ 200 ≤ r.status ∧ r.status ≤ 299) ∧
    (¬ (200 ≤ r.status ∧ r.status ≤ 299) →
      ∃ e, classify r = some e ∧ e.code = r.status ∧
        (e.rawMessage.isSome ↔ JsonWithoutReasons r.body) ∧
        (∀ raw, e.rawMessage = some raw → e.message = raw ∧ e.reasons = [] ∧
          LongestPrefixWithin rawMessageLimit (Utf8.decodeLossy r.body) raw) ∧
        (e.rawMessage = none → e.reasons = (listedReasons r.body).getD [] ∧
          e.message = (e.reasons.head?.map Reason.text).getD (Http.Status.text r.status))) := by
  have success : Http.Status.isSuccess r.status = true ↔ 200 ≤ r.status ∧ r.status ≤ 299 := by
    simp [Http.Status.isSuccess]
  refine ⟨⟨fun none => ?_, fun ok => ?_⟩, fun failing => ?_⟩
  · apply success.1
    cases succeeded : Http.Status.isSuccess r.status with
    | true => rfl
    | false =>
      rcases body_cases r.body with ⟨rs, listed⟩ | unlisted | unparsed
      · rw [classify_of_listed succeeded listed] at none; cases none
      · rw [classify_of_unlisted succeeded unlisted] at none; cases none
      · rw [classify_of_unparsed succeeded unparsed] at none; cases none
  · simp [classify, success.2 ok]
  · have failed : Http.Status.isSuccess r.status = false :=
      Bool.eq_false_iff.2 fun succeeded => failing (success.1 succeeded)
    rcases body_cases r.body with ⟨rs, listed⟩ | unlisted | unparsed
    · -- reasons listed: no raw message
      refine ⟨_, classify_of_listed failed listed, rfl, ?_, fun raw kept => (by cases kept),
        fun _ => ⟨by simp [ApiError.ofReasons, listed], ?_⟩⟩
      · simp only [ApiError.ofReasons, Option.isSome_none, Bool.false_eq_true, false_iff]
        exact fun ⟨_, absent⟩ => by rw [listed] at absent; cases absent
      · cases rs <;> rfl
    · refine ⟨_, classify_of_unlisted failed unlisted, rfl, ?_, fun raw kept => ?_,
        fun kept => (by cases kept)⟩
      · simp [rawError, unlisted]
      · cases kept
        exact ⟨rfl, rfl, Utf8.truncateBytes_longest _ _⟩
    · have unlisted : listedReasons r.body = none := by
        unfold listedReasons
        cases parsed : Json.parse r.body with
        | ok v => exact absurd parsed (unparsed v)
        | error _ => rfl
      refine ⟨_, classify_of_unparsed failed unparsed, rfl, ?_, fun raw kept => (by cases kept),
        fun _ => ⟨by simp [ApiError.ofStatus, ApiError.ofReasons, unlisted], rfl⟩⟩
      simp only [ApiError.ofStatus, ApiError.ofReasons, Option.isSome_none, Bool.false_eq_true,
        false_iff]
      exact fun ⟨⟨v, parsed⟩, _⟩ => unparsed v parsed

end CloudApi
