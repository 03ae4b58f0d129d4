import Mathlib
import CloudApi.Log.Config
import CloudApi.Client.Execute

/-!
# Redacted headers in the exchange log

Two header lists that differ only in values marked sensitive, or with redaction on under a
listed name, are written alike (`formatHeaders_hides_sensitive_values`). A request's bearer token
is marked sensitive, so it never reaches the log (`Client.requestHeaders_token_hidden`).
-/

namespace CloudApi

namespace Http.Headers

section Related

variable {R : Header → Header → Prop} (names : ∀ a b, R a b → a.name = b.name)
include names

theorem any_name_forall₂ {hs₁ hs₂ : Headers} (h : List.Forall₂ R hs₁ hs₂) (p : String → Bool) :
    hs₁.any (fun x => p x.name) = hs₂.any (fun x => p x.name) := by
  induction h with
  | nil => rfl
  | cons related _ ih => simp only [List.any_cons, names _ _ related, ih]

theorem filter_name_forall₂ {hs₁ hs₂ : Headers} (h : List.Forall₂ R hs₁ hs₂) (p : String → Bool) :
    List.Forall₂ R (hs₁.filter fun x => p x.name) (hs₂.filter fun x => p x.name) :=
  List.rel_filter (fun a b related => by dsimp only; rw [names a b related]) h

theorem span_name_forall₂ {hs₁ hs₂ : Headers} (h : List.Forall₂ R hs₁ hs₂) (p : String → Bool) :
    List.Forall₂ R (hs₁.span fun x => p x.name).1 (hs₂.span fun x => p x.name).1 ∧
      List.Forall₂ R (hs₁.span fun x => p x.name).2 (hs₂.span fun x => p x.name).2 := by
  simp only [List.span_eq_takeWhile_dropWhile]
  induction h with
  | nil => exact ⟨.nil, .nil⟩
  | @cons a b _ _ related rest ih =>
    rw [List.takeWhile_cons, List.takeWhile_cons, List.dropWhile_cons, List.dropWhile_cons,
      names _ _ related]
    cases p b.name
    · exact ⟨.nil, .cons related rest⟩
    · exact ⟨.cons related ih.1, ih.2⟩

theorem grouped_forall₂ {hs₁ hs₂ : Headers} (h : List.Forall₂ R hs₁ hs₂) :
    List.Forall₂ R hs₁.grouped hs₂.grouped := by
  -- the names in the order of their first field are the same for both lists
  have firsts : hs₁.foldl (fun acc h => if acc.contains h.name then acc else acc ++ [h.name]) [] =
      hs₂.foldl (fun acc h => if acc.contains h.name then acc else acc ++ [h.name]) [] :=
    List.rel_foldl (fun acc acc' same a b related => by rw [same, names a b related]) rfl h
  unfold grouped
  rw [firsts]
  apply List.rel_flatMap (List.forall₂_same.2 fun _ _ => rfl)
  rintro n _ rfl
  exact filter_name_forall₂ names h (· == n)

theorem insert_forall₂ {hs₁ hs₂ : Headers} (h : List.Forall₂ R hs₁ hs₂) {n : String}
    {v₁ v₂ : ByteArray} {s : Bool} (new : R ⟨n.toLower, v₁, s⟩ ⟨n.toLower, v₂, s⟩) :
    List.Forall₂ R (hs₁.insert n v₁ s) (hs₂.insert n v₂ s) := by
  unfold insert
  dsimp only
  rw [any_name_forall₂ names h (· == n.toLower)]
  split
  · obtain ⟨before, after⟩ := span_name_forall₂ names h (· != n.toLower)
    exact List.rel_append before (.cons new (filter_name_forall₂ names after (· != n.toLower)))
  · exact List.rel_append h (.cons new .nil)

end Related

end Http.Headers

namespace Log.Config

theorem lowerAscii_eq_toLower (s : String) : lowerAscii s = s.toLower := by
  rw [lowerAscii, String.toLower, ← String.toList_map, String.ofList_toList]

theorem isSensitive_iff {c : Config} (on : c.redact = true) (name : String) :
    c.isSensitive name = true ↔ ∃ h ∈ c.sensitive, h.toLower = name.toLower := by
  simp only [isSensitive, on, Bool.true_and, List.any_eq_true, beq_iff_eq, lowerAscii_eq_toLower]

/-- `hs₂` is `hs₁` with at most hidden values changed. -/
def SameUnlessSensitive (c : Config) (hs₁ hs₂ : Http.Headers) : Prop :=
  List.Forall₂ (fun a b => a.name = b.name ∧ a.sensitive = b.sensitive ∧
    (a.value = b.value ∨ a.sensitive = true ∨
      (c.redact = true ∧ ∃ h ∈ c.sensitive, h.toLower = a.name.toLower))) hs₁ hs₂

theorem formatHeaders_hides_sensitive_values {c : Config} {hs₁ hs₂ : Http.Headers}
    (same : c.SameUnlessSensitive hs₁ hs₂) : c.formatHeaders hs₁ = c.formatHeaders hs₂ := by
  have grouped := Http.Headers.grouped_forall₂ (fun _ _ related => related.1) same
  unfold formatHeaders
  congr 1
  generalize hs₁.grouped = g₁ at grouped
  generalize hs₂.grouped = g₂ at grouped
  induction grouped with
  | nil => rfl
  | @cons a b _ _ related _ ih =>
    obtain ⟨name, marked, value⟩ := related
    rw [List.map_cons, List.map_cons, ih, ← name, ← marked]
    by_cases hidden : c.isSensitive a.name = true
    · simp only [hidden, ↓reduceIte]
    · by_cases flagged : a.sensitive = true
      · simp only [hidden, flagged, Bool.false_eq_true, ↓reduceIte]
      · -- a value that is shown is the same in both lists
        have kept : a.value = b.value := by
          rcases value with kept | flagged' | ⟨on, listed⟩
          · exact kept
          · exact absurd flagged' flagged
          · exact absurd ((isSensitive_iff on a.name).2 listed) hidden
        simp only [hidden, flagged, kept, Bool.false_eq_true, ↓reduceIte]

theorem bearer_token_stays_out_of_log :
    let hs₁ : Http.Headers := [{ name := "authorization", value := "Bearer s3cr3t".toUTF8, sensitive := true },
      { name := "x-filter", value := "{}".toUTF8 }]
    let hs₂ : Http.Headers := [{ name := "authorization", value := "Bearer other".toUTF8, sensitive := true },
      { name := "x-filter", value := "{}".toUTF8 }]
    let c : Config := { redact := false }
    c.SameUnlessSensitive hs₁ hs₂ ∧ c.formatHeaders hs₁ = c.formatHeaders hs₂ := by
  intro hs₁ hs₂ c
  have same : c.SameUnlessSensitive hs₁ hs₂ :=
    .cons ⟨rfl, rfl, .inr (.inl rfl)⟩ (.cons ⟨rfl, rfl, .inl rfl⟩ .nil)
  exact ⟨same, formatHeaders_hides_sensitive_values same⟩

end Log.Config

theorem Client.requestHeaders_token_hidden (c : Client) (r : ApiRequest) (cfg : Log.Config) {t₁ t₂ : String}
    {hs₁ hs₂ : Http.Headers} (built₁ : { c with token := some t₁ }.requestHeaders r = .ok hs₁)
    (built₂ : { c with token := some t₂ }.requestHeaders r = .ok hs₂) :
    cfg.formatHeaders hs₁ = cfg.formatHeaders hs₂ := by
  apply Log.Config.formatHeaders_hides_sensitive_values
  -- the two lists are built alike, the one token apart, which goes in marked sensitive
  have names : ∀ a b : Http.Header, (a.name = b.name ∧ a.sensitive = b.sensitive ∧
      (a.value = b.value ∨ a.sensitive = true ∨
        (cfg.redact = true ∧ ∃ h ∈ cfg.sensitive, h.toLower = a.name.toLower))) → a.name = b.name :=
    fun _ _ related => related.1
  have tokens : ∀ base : Http.Headers,
      cfg.SameUnlessSensitive (base.insert "authorization" ("Bearer " ++ t₁).toUTF8 true)
        (base.insert "authorization" ("Bearer " ++ t₂).toUTF8 true) := fun base =>
    Http.Headers.insert_forall₂ names (List.forall₂_same.2 fun _ _ => ⟨rfl, rfl, .inl rfl⟩)
      ⟨rfl, rfl, .inr (.inl rfl)⟩
  unfold Client.requestHeaders at built₁ built₂
  dsimp only at built₁ built₂
  split at built₁
  · split at built₂
    · simp only [pure_bind] at built₁ built₂
      cases filtered : r.filter with
      | none =>
        simp only [filtered] at built₁ built₂
        cases built₁
        cases built₂
        exact tokens _
      | some f =>
        simp only [filtered] at built₁ built₂
        split at built₁
        · rename_i valid
          rw [if_pos valid] at built₂
          cases built₁
          cases built₂
          exact Http.Headers.insert_forall₂ names (tokens _) ⟨rfl, rfl, .inl rfl⟩
        · cases built₁
    · cases built₂
  · cases built₁

end CloudApi
