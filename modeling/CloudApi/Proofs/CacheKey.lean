import Mathlib
import CloudApi.Http.Cache

/-!
# What the cache key tells apart

The key writes the method, origin, path, sorted decoded query pairs and filter. Reads that agree
on these up to the order of the pairs share a key; the converse holds when the decoded texts hold
none of the separators the key writes (`cacheKey_separates_requests`).
-/

namespace CloudApi.Web

theorem Url.origin_of_not_blob {u : Url} (notBlob : u.scheme ≠ "blob") :
    u.origin = u.tupleOrigin.getD "null" := by
  simp [Url.origin, Url.originWithin, notBlob]

end CloudApi.Web

namespace CloudApi.Http

/-- The order in which a key writes query pairs: by name, then by value. -/
def pairOrder (a b : String × String) : Bool := a.1 < b.1 || (a.1 == b.1 && a.2 ≤ b.2)

/-- How a key writes its sorted query pairs: nothing for none, else `?` and `k=v` joined by `&`. -/
def keyQuery (pairs : List (String × String)) : String :=
  match pairs with
  | [] => ""
  | _ => "?" ++ "&".intercalate (pairs.map fun (k, v) => k ++ "=" ++ v)

/-- How a key writes its filter. -/
def keyFilter : Option String → String
  | some f => " filter=" ++ f
  | none => ""

theorem cacheKey_eq (m : String) (u : Web.Url) (f : Option String) :
    cacheKey m u f =
      m ++ " " ++ u.origin ++ u.pathText ++ keyQuery (u.queryPairs.mergeSort pairOrder) ++ keyFilter f :=
  rfl

/-! ### Sorting the pairs -/

theorem pairOrder_iff (a b : String × String) :
    pairOrder a b = true ↔ a.1 < b.1 ∨ (a.1 = b.1 ∧ a.2 ≤ b.2) := by
  simp [pairOrder]

theorem pairOrder_trans (a b c : String × String) (ab : pairOrder a b = true)
    (bc : pairOrder b c = true) : pairOrder a c = true := by
  rw [pairOrder_iff] at *
  rcases ab with ab | ⟨ab, ab'⟩ <;> rcases bc with bc | ⟨bc, bc'⟩
  · exact .inl (lt_trans ab bc)
  · exact .inl (bc ▸ ab)
  · exact .inl (ab ▸ bc)
  · exact .inr ⟨ab.trans bc, le_trans ab' bc'⟩

theorem pairOrder_total (a b : String × String) : (pairOrder a b || pairOrder b a) = true := by
  rw [Bool.or_eq_true, pairOrder_iff, pairOrder_iff]
  rcases lt_trichotomy a.1 b.1 with lt | same | gt
  · exact .inl (.inl lt)
  · rcases le_total a.2 b.2 with le | ge
    · exact .inl (.inr ⟨same, le⟩)
    · exact .inr (.inr ⟨same.symm, ge⟩)
  · exact .inr (.inl gt)

theorem pairOrder_antisymm (a b : String × String) (ab : pairOrder a b = true)
    (ba : pairOrder b a = true) : a = b := by
  rw [pairOrder_iff] at ab ba
  rcases ab with ab | ⟨ab, ab'⟩
  · rcases ba with ba | ⟨ba, -⟩
    · exact absurd (lt_trans ab ba) (lt_irrefl _)
    · exact absurd ab (ba ▸ lt_irrefl _)
  · rcases ba with ba | ⟨-, ba'⟩
    · exact absurd ba (ab ▸ lt_irrefl _)
    · exact Prod.ext ab (le_antisymm ab' ba')

theorem mergeSort_eq_of_perm {l₁ l₂ : List (String × String)} (perm : l₁.Perm l₂) :
    l₁.mergeSort pairOrder = l₂.mergeSort pairOrder := by
  apply List.Perm.eq_of_pairwise (fun a b _ _ ab ba => pairOrder_antisymm a b ab ba)
  · exact List.pairwise_mergeSort pairOrder_trans pairOrder_total l₁
  · exact List.pairwise_mergeSort pairOrder_trans pairOrder_total l₂
  · exact (List.mergeSort_perm l₁ pairOrder).trans (perm.trans (List.mergeSort_perm l₂ pairOrder).symm)

/-! ### Reading a key back -/

/-- A decoded query pair that reads back from a key: no `=` in its name, no `&` or space in it. -/
def SafePair (p : String × String) : Prop :=
  '=' ∉ p.1.toList ∧ '&' ∉ p.1.toList ∧ ' ' ∉ p.1.toList ∧ '&' ∉ p.2.toList ∧ ' ' ∉ p.2.toList

instance : DecidablePred SafePair := fun p =>
  inferInstanceAs (Decidable ('=' ∉ p.1.toList ∧ '&' ∉ p.1.toList ∧ ' ' ∉ p.1.toList ∧
    '&' ∉ p.2.toList ∧ ' ' ∉ p.2.toList))

/-- The characters of a written pair. -/
def pairText (p : String × String) : List Char := p.1.toList ++ '=' :: p.2.toList

/-- A written pair read back: the text up to its first `=`, and the text after it. -/
def readPair (t : List Char) : String × String :=
  (String.ofList (t.takeWhile (· != '=')), String.ofList ((t.dropWhile (· != '=')).drop 1))

theorem cut_at_mark {c : Char} {a b : List Char} (absent : c ∉ a) (marked : ∀ x t, b = x :: t → x = c) :
    (a ++ b).takeWhile (· != c) = a ∧ (a ++ b).dropWhile (· != c) = b := by
  induction a with
  | nil =>
    cases b with
    | nil => simp
    | cons x t =>
      obtain rfl := marked x t rfl
      simp
  | cons x a ih =>
    have other : x ≠ c := fun same => absent (same ▸ List.mem_cons_self)
    obtain ⟨taken, dropped⟩ := ih (fun mem => absent (List.mem_cons_of_mem _ mem))
    simp [other, taken, dropped]

theorem append_inj_of_mark {c : Char} {a₁ a₂ b₁ b₂ : List Char} (absent₁ : c ∉ a₁) (absent₂ : c ∉ a₂)
    (marked₁ : ∀ x t, b₁ = x :: t → x = c) (marked₂ : ∀ x t, b₂ = x :: t → x = c)
    (same : a₁ ++ b₁ = a₂ ++ b₂) : a₁ = a₂ ∧ b₁ = b₂ := by
  obtain ⟨taken₁, dropped₁⟩ := cut_at_mark absent₁ marked₁
  obtain ⟨taken₂, dropped₂⟩ := cut_at_mark absent₂ marked₂
  rw [same] at taken₁ dropped₁
  exact ⟨taken₁.symm.trans taken₂, dropped₁.symm.trans dropped₂⟩

theorem not_mem_intercalate {x : Char} {sep : List Char} (notSep : x ∉ sep) :
    ∀ {ls : List (List Char)}, (∀ l ∈ ls, x ∉ l) → x ∉ sep.intercalate ls
  | [], _ => by simp
  | [l], absent => by
    rw [List.intercalate_singleton]
    exact absent l List.mem_cons_self
  | l :: l' :: ls, absent => by
    rw [List.intercalate_cons_cons]
    simp only [List.mem_append, not_or]
    exact ⟨⟨absent l List.mem_cons_self, notSep⟩,
      not_mem_intercalate notSep fun l'' mem => absent l'' (List.mem_cons_of_mem _ mem)⟩

theorem readPair_pairText {p : String × String} (plainName : '=' ∉ p.1.toList) :
    readPair (pairText p) = p := by
  obtain ⟨taken, dropped⟩ := cut_at_mark (c := '=') (b := '=' :: p.2.toList) plainName
    (fun x t same => (List.cons.inj same).1.symm)
  simp [readPair, pairText, taken, dropped]

theorem keyQuery_cons_toList (p : String × String) (ps : List (String × String)) :
    (keyQuery (p :: ps)).toList = '?' :: ['&'].intercalate ((p :: ps).map pairText) := by
  have mark : ("?" : String).toList = ['?'] := rfl
  have amp : ("&" : String).toList = ['&'] := rfl
  simp only [keyQuery, String.toList_append, String.toList_intercalate, List.map_map, mark, amp,
    List.singleton_append]
  congr 2
  apply List.map_congr_left
  intro q _
  simp [pairText, String.toList_append]

theorem pairText_plain {p : String × String} (safe : SafePair p) :
    '&' ∉ pairText p ∧ ' ' ∉ pairText p := by
  obtain ⟨-, nameAmp, nameSpace, valueAmp, valueSpace⟩ := safe
  simp [pairText, nameAmp, nameSpace, valueAmp, valueSpace]

theorem keyQuery_space {l : List (String × String)} (safe : ∀ p ∈ l, SafePair p) :
    ' ' ∉ (keyQuery l).toList := by
  cases l with
  | nil => simp [keyQuery]
  | cons p ps =>
    rw [keyQuery_cons_toList]
    refine List.not_mem_cons_of_ne_of_not_mem (by decide) (not_mem_intercalate (by decide) ?_)
    intro t mem
    obtain ⟨q, held, rfl⟩ := List.mem_map.1 mem
    exact (pairText_plain (safe q held)).2

theorem keyQuery_marked (l : List (String × String)) :
    ∀ x t, (keyQuery l).toList = x :: t → x = '?' := by
  intro x t written
  cases l with
  | nil => simp [keyQuery] at written
  | cons p ps =>
    rw [keyQuery_cons_toList] at written
    exact (List.cons.inj written).1.symm

theorem keyFilter_marked (f : Option String) : ∀ x t, (keyFilter f).toList = x :: t → x = ' ' := by
  intro x t written
  cases f with
  | none => simp [keyFilter] at written
  | some f =>
    simp only [keyFilter, String.toList_append] at written
    exact (List.cons.inj written).1.symm

theorem keyFilter_inj {f₁ f₂ : Option String} (same : keyFilter f₁ = keyFilter f₂) : f₁ = f₂ := by
  have lists := congrArg String.toList same
  cases f₁ <;> cases f₂ <;> simp [keyFilter, String.toList_append] at lists ⊢
  exact String.toList_inj.1 lists

theorem keyQuery_inj {l₁ l₂ : List (String × String)} (safe₁ : ∀ p ∈ l₁, SafePair p)
    (safe₂ : ∀ p ∈ l₂, SafePair p) (same : keyQuery l₁ = keyQuery l₂) : l₁ = l₂ := by
  have lists := congrArg String.toList same
  -- each written pair reads back, so the pairs are the pieces between the `&`s, read back
  have readBack : ∀ l : List (String × String), (∀ p ∈ l, SafePair p) →
      (l.map pairText).map readPair = l := by
    intro l safe
    rw [List.map_map]
    exact (List.map_congr_left fun p held => readPair_pairText (safe p held).1).trans (List.map_id _)
  have pieces : ∀ p ps, (∀ q ∈ p :: ps, SafePair q) →
      List.splitOn '&' (['&'].intercalate ((p :: ps).map pairText)) = (p :: ps).map pairText := by
    intro p ps safe
    refine List.splitOn_intercalate '&' ?_ (by simp)
    intro t mem
    obtain ⟨q, held, rfl⟩ := List.mem_map.1 mem
    exact (pairText_plain (safe q held)).1
  cases l₁ with
  | nil =>
    cases l₂ with
    | nil => rfl
    | cons q qs => simp [keyQuery] at lists
  | cons p ps =>
    cases l₂ with
    | nil => simp [keyQuery] at lists
    | cons q qs =>
      rw [keyQuery_cons_toList, keyQuery_cons_toList] at lists
      have split := congrArg (List.splitOn '&') (List.cons.inj lists).2
      rw [pieces p ps safe₁, pieces q qs safe₂] at split
      rw [← readBack _ safe₁, ← readBack _ safe₂, split]

theorem cacheKey_toList (m : String) (u : Web.Url) (f : Option String) :
    (cacheKey m u f).toList = m.toList ++ ' ' :: (((u.origin ++ u.pathText).toList ++
      (keyQuery (u.queryPairs.mergeSort pairOrder)).toList) ++ (keyFilter f).toList) := by
  rw [cacheKey_eq]
  simp [String.toList_append, List.append_assoc]

/-- Reads agreeing on origin, path, query pairs up to order and filter share a key; when the
decoded texts hold no separator of the key, sharing a key means agreeing on all of these. -/
theorem cacheKey_separates_requests (m : String) (u₁ u₂ : Web.Url) (f₁ f₂ : Option String) :
    (u₁.origin = u₂.origin → u₁.pathText = u₂.pathText → u₁.queryPairs.Perm u₂.queryPairs →
      f₁ = f₂ → cacheKey m u₁ f₁ = cacheKey m u₂ f₂) ∧
    ((∀ p ∈ u₁.queryPairs ++ u₂.queryPairs, SafePair p) →
      (∀ c ∈ (u₁.origin ++ u₁.pathText).toList ++ (u₂.origin ++ u₂.pathText).toList,
        c ≠ ' ' ∧ c ≠ '?') →
      cacheKey m u₁ f₁ = cacheKey m u₂ f₂ →
      u₁.origin ++ u₁.pathText = u₂.origin ++ u₂.pathText ∧ u₁.queryPairs.Perm u₂.queryPairs ∧
        f₁ = f₂) := by
  refine ⟨fun origin path perm filter => ?_, fun safe plain same => ?_⟩
  · rw [cacheKey_eq, cacheKey_eq, origin, path, mergeSort_eq_of_perm perm, filter]
  · have safe₁ : ∀ p ∈ u₁.queryPairs.mergeSort pairOrder, SafePair p :=
      fun p mem => safe p (List.mem_append_left _ (List.mem_mergeSort.1 mem))
    have safe₂ : ∀ p ∈ u₂.queryPairs.mergeSort pairOrder, SafePair p :=
      fun p mem => safe p (List.mem_append_right _ (List.mem_mergeSort.1 mem))
    have stem₁ : ' ' ∉ (u₁.origin ++ u₁.pathText).toList ∧ '?' ∉ (u₁.origin ++ u₁.pathText).toList :=
      ⟨fun mem => (plain _ (List.mem_append_left _ mem)).1 rfl,
        fun mem => (plain _ (List.mem_append_left _ mem)).2 rfl⟩
    have stem₂ : ' ' ∉ (u₂.origin ++ u₂.pathText).toList ∧ '?' ∉ (u₂.origin ++ u₂.pathText).toList :=
      ⟨fun mem => (plain _ (List.mem_append_right _ mem)).1 rfl,
        fun mem => (plain _ (List.mem_append_right _ mem)).2 rfl⟩
    -- past the method and its space, the filter part starts at the first space, and the query
    -- part at the first `?`
    have lists := congrArg String.toList same
    rw [cacheKey_toList, cacheKey_toList] at lists
    have rest := (List.cons.inj (List.append_cancel_left lists)).2
    obtain ⟨front, filters⟩ := append_inj_of_mark (c := ' ')
      (by simp only [List.mem_append, not_or]; exact ⟨stem₁.1, keyQuery_space safe₁⟩)
      (by simp only [List.mem_append, not_or]; exact ⟨stem₂.1, keyQuery_space safe₂⟩)
      (keyFilter_marked f₁) (keyFilter_marked f₂) rest
    obtain ⟨stems, queries⟩ := append_inj_of_mark stem₁.2 stem₂.2 (keyQuery_marked _)
      (keyQuery_marked _) front
    have sorted := keyQuery_inj safe₁ safe₂ (String.toList_inj.1 queries)
    refine ⟨String.toList_inj.1 stems, ?_, keyFilter_inj (String.toList_inj.1 filters)⟩
    exact (List.mergeSort_perm _ pairOrder).symm.trans (sorted ▸ List.mergeSort_perm _ pairOrder)

theorem reordered_query_shares_key :
    let base : Web.Url :=
      { scheme := "https", host := some (.domain "api.linode.com"), path := .segments ["v4", "regions"] }
    let u₁ : Web.Url := { base with query := some "page_size=50&page=2" }
    let u₂ : Web.Url := { base with query := some "page=2&page_size=50" }
    (u₁.origin = u₂.origin ∧ u₁.pathText = u₂.pathText ∧ u₁.queryPairs.Perm u₂.queryPairs ∧
      cacheKey "GET" u₁ none = cacheKey "GET" u₂ none) ∧
    ((∀ p ∈ u₁.queryPairs ++ u₂.queryPairs, SafePair p) ∧
      (∀ c ∈ (u₁.origin ++ u₁.pathText).toList ++ (u₂.origin ++ u₂.pathText).toList,
        c ≠ ' ' ∧ c ≠ '?') ∧
      u₁.origin ++ u₁.pathText = u₂.origin ++ u₂.pathText ∧ u₁.queryPairs.Perm u₂.queryPairs) := by
  intro base u₁ u₂
  have origin₁ : u₁.origin = "https://api.linode.com" := by
    rw [Web.Url.origin_of_not_blob (by decide)]
    decide +kernel
  have origin₂ : u₂.origin = "https://api.linode.com" := by
    rw [Web.Url.origin_of_not_blob (by decide)]
    decide +kernel
  have origin : u₁.origin = u₂.origin := origin₁.trans origin₂.symm
  have path : u₁.pathText = u₂.pathText := rfl
  have perm : u₁.queryPairs.Perm u₂.queryPairs := by decide +kernel
  have safe : ∀ p ∈ u₁.queryPairs ++ u₂.queryPairs, SafePair p := by decide +kernel
  have plain : ∀ c ∈ (u₁.origin ++ u₁.pathText).toList ++ (u₂.origin ++ u₂.pathText).toList,
      c ≠ ' ' ∧ c ≠ '?' := by
    have path₁ : u₁.pathText = "/v4/regions" := rfl
    have path₂ : u₂.pathText = "/v4/regions" := rfl
    rw [origin₁, origin₂, path₁, path₂]
    simp
  obtain ⟨shared, separated⟩ := cacheKey_separates_requests "GET" u₁ u₂ none none
  have same := shared origin path perm rfl
  obtain ⟨stems, pairs, -⟩ := separated safe plain same
  exact ⟨⟨origin, path, perm, same⟩, safe, plain, stems, pairs⟩

theorem encoded_ampersand_shares_key :
    let base : Web.Url :=
      { scheme := "https", host := some (.domain "api.linode.com"), path := .segments ["v4", "regions"] }
    let encoded : Web.Url := { base with query := some "a=b%26c%3Dd" }
    let plain : Web.Url := { base with query := some "a=b&c=d" }
    encoded.queryPairs = [("a", "b&c=d")] ∧ plain.queryPairs = [("a", "b"), ("c", "d")] ∧
      cacheKey "GET" encoded none = cacheKey "GET" plain none := by
  intro base encoded plain
  have one : encoded.queryPairs = [("a", "b&c=d")] := by decide +kernel
  have two : plain.queryPairs = [("a", "b"), ("c", "d")] := by decide +kernel
  -- the two pairs are already in order, so sorting leaves both lists as they are
  have sorted : [("a", "b"), ("c", "d")].mergeSort pairOrder = [("a", "b"), ("c", "d")] :=
    List.mergeSort_of_pairwise (by decide +kernel)
  refine ⟨one, two, ?_⟩
  rw [cacheKey_eq, cacheKey_eq, one, two, List.mergeSort_singleton, sorted]
  decide +kernel

end CloudApi.Http
