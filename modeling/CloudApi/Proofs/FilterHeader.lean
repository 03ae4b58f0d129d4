import CloudApi.Proofs.JsonRoundTrip
import CloudApi.Query.Page
import CloudApi.Client.Execute

/-!
# The filter header of a list request

A filter's text, with the sort keys put in when the request asks for an order, becomes the
`x-filter` header and reads back as the filter's JSON. The limits are 127 levels of nesting and
DEL, the one byte of printed JSON a header value refuses (`del_filter_fails_request`).
-/

namespace CloudApi

namespace Json

/-! ### Printed text as a header value -/

mutual
/-- The keys and strings a value holds. -/
def texts : Json → List String
  | .str s => [s]
  | .arr items => textsItems items
  | .obj fields => textsFields fields
  | _ => []

/-- The keys and strings of a list of values. -/
def textsItems : List Json → List String
  | [] => []
  | x :: xs => texts x ++ textsItems xs

/-- The keys and strings of a field list. -/
def textsFields : List (String × Json) → List String
  | [] => []
  | (k, v) :: fs => k :: (texts v ++ textsFields fs)
end

open Http (isValueByte)

theorem isValueByte_of_toNat {b : UInt8} (low : 32 ≤ b.toNat) (notDel : b.toNat ≠ 127) :
    isValueByte b = true := by
  have notDel' : b ≠ 127 := fun same => notDel (by rw [same]; rfl)
  simp only [isValueByte, Bool.or_eq_true, Bool.and_eq_true, decide_eq_true_eq, UInt8.le_iff_toNat_le]
  exact .inl ⟨low, notDel'⟩

theorem hexByte_value : ∀ m < 16, isValueByte (hexByte m) = true := by decide

theorem escapeChar_value (c : Char) (notDel : c ≠ '\x7f') :
    (bytesOf (escapeChar c)).all isValueByte = true := by
  unfold escapeChar
  split
  case h_1 | h_2 | h_3 | h_4 | h_5 | h_6 | h_7 => decide
  case h_8 =>
    split
    · rw [bytesOf_append, bytesOf_hex4, List.all_append]
      simp only [List.all_cons, List.all_nil, hexByte_value _ (Nat.mod_lt _ (by decide)), Bool.and_true]
      decide
    · rename_i visible
      have delNat : c.toNat ≠ 127 := fun same => notDel (Char.toNat_inj.mp same)
      have own : bytesOf c.toString = String.utf8EncodeChar c := by simp [bytesOf]
      rw [own, List.all_eq_true]
      intro b mem
      rcases utf8EncodeChar_bytes c b mem with same | high
      · exact isValueByte_of_toNat (by omega) (by omega)
      · exact isValueByte_of_toNat (by omega) (by omega)

theorem quote_value (s : String) (plain : '\x7f' ∉ s.toList) : (bytesOf (quote s)).all isValueByte = true := by
  rw [bytesOf_quote, List.all_append, List.all_cons, escapedBytes, List.all_flatMap]
  have inner : (s.toList.all fun c => (bytesOf (escapeChar c)).all isValueByte) = true :=
    List.all_eq_true.mpr fun c mem => escapeChar_value c (fun same => plain (same ▸ mem))
  rw [inner]
  rfl

theorem digits_value (n : Nat) : (bytesOf (toString n)).all isValueByte = true := by
  rw [bytesOf_toString, List.all_flatMap, List.all_eq_true]
  intro c mem
  have digit : c.isDigit = true := Nat.isDigit_of_mem_toDigits (b := 10) (by decide) (by decide) mem
  have range := digit_range digit
  rw [digit_bytes digit, List.all_cons, List.all_nil, Bool.and_true]
  exact isValueByte_of_toNat (by rw [byte_toNat (by omega)]; omega) (by rw [byte_toNat (by omega)]; omega)

mutual
theorem render_value : ∀ v : Json, v.canonical = true → (∀ s ∈ v.texts, '\x7f' ∉ s.toList) →
    (bytesOf v.render).all isValueByte = true
  | .null, _, _ => rfl
  | .bool true, _, _ => rfl
  | .bool false, _, _ => rfl
  | .num (.nat n), _, _ => digits_value n
  | .num (.neg n), canon, _ => by
    show (bytesOf (toString n)).all isValueByte = true
    rw [bytesOf_negative (of_decide_eq_true canon).2, List.all_cons, digits_value]
    rfl
  | .num (.float _), canon, _ => absurd canon Bool.false_ne_true
  | .str s, _, plain => quote_value s (plain s (List.mem_singleton_self s))
  | .arr [], _, _ => by rw [bytesOf_render_arr]; rfl
  | .arr (x :: xs), canon, plain => by
    simp only [canonical, canonicalItems, Bool.and_eq_true] at canon
    simp only [texts, textsItems, List.mem_append] at plain
    rw [bytesOf_render_arr, bytesOf_renderItems]
    simp only [List.all_append, List.all_cons, render_value x canon.1 (fun s mem => plain s (.inl mem)),
      itemsTail_value xs canon.2 (fun s mem => plain s (.inr mem))]
    rfl
  | .obj [], _, _ => by rw [bytesOf_render_obj]; rfl
  | .obj ((k, v) :: fs), canon, plain => by
    simp only [canonical, canonicalFields, Bool.and_eq_true] at canon
    simp only [texts, textsFields, List.mem_cons, List.mem_append] at plain
    rw [bytesOf_render_obj, bytesOf_renderFields, fieldBytes]
    simp only [List.all_append, List.all_cons, quote_value k (plain k (.inl rfl)),
      render_value v canon.2.1 (fun s mem => plain s (.inr (.inl mem))),
      fieldsTail_value fs canon.2.2 (fun s mem => plain s (.inr (.inr mem)))]
    rfl

theorem itemsTail_value : ∀ xs : List Json, canonicalItems xs = true →
    (∀ s ∈ textsItems xs, '\x7f' ∉ s.toList) → (itemsTail xs).all isValueByte = true
  | [], _, _ => rfl
  | x :: xs, canon, plain => by
    simp only [canonicalItems, Bool.and_eq_true] at canon
    simp only [textsItems, List.mem_append] at plain
    rw [itemsTail]
    simp only [List.all_append, List.all_cons, render_value x canon.1 (fun s mem => plain s (.inl mem)),
      itemsTail_value xs canon.2 (fun s mem => plain s (.inr mem))]
    rfl

theorem fieldsTail_value : ∀ fs : List (String × Json), canonicalFields fs = true →
    (∀ s ∈ textsFields fs, '\x7f' ∉ s.toList) → (fieldsTail fs).all isValueByte = true
  | [], _, _ => rfl
  | (k, v) :: fs, canon, plain => by
    simp only [canonicalFields, Bool.and_eq_true] at canon
    simp only [textsFields, List.mem_cons, List.mem_append] at plain
    rw [fieldsTail, fieldBytes]
    simp only [List.all_append, List.all_cons, quote_value k (plain k (.inl rfl)),
      render_value v canon.1 (fun s mem => plain s (.inr (.inl mem))),
      fieldsTail_value fs canon.2 (fun s mem => plain s (.inr (.inr mem)))]
    rfl
end

/-! ### Putting a field into an object -/

theorem canonicalFields_iff : ∀ fs : List (String × Json),
    canonicalFields fs = true ↔ ∀ p ∈ fs, p.2.canonical = true
  | [] => by simp [canonicalFields]
  | (k, v) :: fs => by
    rw [canonicalFields, Bool.and_eq_true, canonicalFields_iff fs, List.forall_mem_cons]

theorem depthFields_le : ∀ (fs : List (String × Json)) (n : Nat),
    depthFields fs ≤ n ↔ ∀ p ∈ fs, p.2.depth ≤ n
  | [], n => by simp [depthFields]
  | (k, v) :: fs, n => by
    rw [depthFields, Nat.max_le, depthFields_le fs n, List.forall_mem_cons]

theorem mem_textsFields {s : String} : ∀ {fs : List (String × Json)},
    s ∈ textsFields fs ↔ ∃ p ∈ fs, s = p.1 ∨ s ∈ p.2.texts
  | [] => by simp [textsFields]
  | (k, v) :: fs => by
    rw [textsFields, List.mem_cons, List.mem_append, mem_textsFields]
    constructor
    · rintro (key | value | ⟨p, later, named⟩)
      · exact ⟨(k, v), List.mem_cons_self .., .inl key⟩
      · exact ⟨(k, v), List.mem_cons_self .., .inr value⟩
      · exact ⟨p, List.mem_cons_of_mem _ later, named⟩
    · rintro ⟨p, mem, named⟩
      rcases List.mem_cons.mp mem with same | later
      · subst same
        exact named.elim .inl (fun value => .inr (.inl value))
      · exact .inr (.inr ⟨p, later, named⟩)

theorem Fields.mem_insert {k : String} {v : Json} {p : String × Json} :
    ∀ {fs : List (String × Json)}, p ∈ Fields.insert k v fs → p = (k, v) ∨ p ∈ fs
  | [], mem => .inl (List.mem_singleton.mp mem)
  | (k', v') :: rest, mem => by
    rw [Fields.insert] at mem
    split at mem
    · exact List.mem_cons.mp mem
    · split at mem
      · rcases List.mem_cons.mp mem with same | later
        · exact .inl same
        · exact .inr (List.mem_cons_of_mem _ later)
      · rcases List.mem_cons.mp mem with same | later
        · exact .inr (same ▸ List.mem_cons_self ..)
        · exact (Fields.mem_insert later).imp id (List.mem_cons_of_mem _)

theorem Fields.insert_sorted (k : String) (v : Json) :
    ∀ {fs : List (String × Json)}, fs.Pairwise (fun a b => a.1 < b.1) →
      (Fields.insert k v fs).Pairwise (fun a b => a.1 < b.1)
  | [], _ => List.pairwise_singleton _ _
  | (k', v') :: rest, sorted => by
    obtain ⟨above, sortedRest⟩ := List.pairwise_cons.mp sorted
    rw [Fields.insert]
    split
    · rename_i before
      refine List.pairwise_cons.mpr ⟨fun p mem => ?_, sorted⟩
      rcases List.mem_cons.mp mem with same | later
      · rw [same]; exact before
      · exact String.lt_trans before (above p later)
    · split
      · rename_i same
        subst same
        exact List.pairwise_cons.mpr ⟨above, sortedRest⟩
      · rename_i notBefore apart
        -- the new key goes after `k'`
        have after : k' < k := by
          by_cases lt : k' < k
          · exact lt
          · exact absurd (String.le_antisymm (String.not_lt.mp lt) (String.not_lt.mp notBefore)) apart
        refine List.pairwise_cons.mpr ⟨fun p mem => ?_, Fields.insert_sorted k v sortedRest⟩
        rcases Fields.mem_insert mem with same | later
        · rw [same]; exact after
        · exact above p later

theorem canonical_obj_iff (fs : List (String × Json)) :
    (Json.obj fs).canonical = true ↔
      fs.Pairwise (fun a b => a.1 < b.1) ∧ ∀ p ∈ fs, p.2.canonical = true := by
  rw [canonical, Bool.and_eq_true, decide_eq_true_eq, canonicalFields_iff]

theorem insert_keeps {k : String} {v : Json} {fs : List (String × Json)}
    (canon : (Json.obj fs).canonical = true) (canonV : v.canonical = true) :
    (Json.obj (Fields.insert k v fs)).canonical = true ∧
      (Json.obj (Fields.insert k v fs)).depth ≤ max (Json.obj fs).depth (v.depth + 1) ∧
      ∀ s ∈ (Json.obj (Fields.insert k v fs)).texts, s = k ∨ s ∈ v.texts ∨ s ∈ (Json.obj fs).texts := by
  obtain ⟨sorted, values⟩ := (canonical_obj_iff fs).mp canon
  refine ⟨(canonical_obj_iff _).mpr ⟨Fields.insert_sorted k v sorted, fun p mem => ?_⟩, ?_, ?_⟩
  · rcases Fields.mem_insert mem with same | old
    · rw [same]; exact canonV
    · exact values p old
  · have inner : depthFields (Fields.insert k v fs) ≤ max (depthFields fs) v.depth := by
      rw [depthFields_le]
      intro p mem
      rcases Fields.mem_insert mem with same | old
      · rw [same]; exact Nat.le_max_right _ _
      · exact Nat.le_trans ((depthFields_le fs _).mp (Nat.le_refl _) p old) (Nat.le_max_left _ _)
    simp only [depth]
    omega
  · intro s mem
    simp only [texts] at mem ⊢
    obtain ⟨p, inserted, named⟩ := mem_textsFields.mp mem
    rcases Fields.mem_insert inserted with same | old
    · subst same
      exact named.imp id .inl
    · exact .inr (.inr (mem_textsFields.mpr ⟨p, old, named⟩))

/-- Puts a string under a key when there is one. -/
def Fields.insertSome (k : String) : Option String → List (String × Json) → List (String × Json)
  | some t, fs => Fields.insert k (.str t) fs
  | none, fs => fs

theorem insertSome_keeps (k : String) (t : Option String) {fs : List (String × Json)}
    (canon : (Json.obj fs).canonical = true) :
    (Json.obj (Fields.insertSome k t fs)).canonical = true ∧
      (Json.obj (Fields.insertSome k t fs)).depth ≤ max (Json.obj fs).depth 1 ∧
      ∀ s ∈ (Json.obj (Fields.insertSome k t fs)).texts, s ∈ (Json.obj fs).texts ∨ s = k ∨ t = some s := by
  cases t with
  | none => exact ⟨canon, Nat.le_max_left _ _, fun s mem => .inl mem⟩
  | some text =>
    obtain ⟨canon', deep, named⟩ := insert_keeps (k := k) (v := .str text) canon rfl
    refine ⟨canon', deep, fun s mem => ?_⟩
    rcases named s mem with key | string | old
    · exact .inr (.inl key)
    · rw [texts, List.mem_singleton] at string
      exact .inr (.inr (congrArg some string.symm))
    · exact .inl old

end Json

theorem Http.validValue_toUTF8 (s : String) : Http.validValue s.toUTF8 = (Json.bytesOf s).all Http.isValueByte := by
  rw [Http.validValue, ByteArray.toList, ByteArray.toList_loop, List.reverse_nil, List.nil_append,
    List.drop_zero, Json.toUTF8_data]

/-! ### The filter header of a list request -/

namespace ListOptions

/-- Fields with a list request's sort keys put in under `+order_by` and `+order`. -/
def sortKeys (o : ListOptions) (fields : List (String × Json)) : List (String × Json) :=
  Json.Fields.insertSome "+order" (o.order.map SortOrder.name)
    (Json.Fields.insertSome "+order_by" o.orderBy fields)

theorem filterHeader_unsorted (o : ListOptions) (noKey : o.orderBy = none) (noOrder : o.order = none) :
    o.filterHeader = .ok o.filter := by
  unfold filterHeader
  rw [noKey, noOrder]
  rfl

theorem filterHeader_sorted {o : ListOptions} {raw : String} {fields : List (String × Json)}
    (sorted : ¬ (o.orderBy = none ∧ o.order = none)) (given : o.filter = some raw)
    (parsed : Json.parseString raw = .ok (.obj fields)) :
    o.filterHeader = .ok (some (Json.obj (o.sortKeys fields)).render) := by
  have asked : ¬ (o.orderBy.isNone = true ∧ o.order.isNone = true) := by
    simp only [Option.isNone_iff_eq_none]
    exact sorted
  unfold filterHeader sortKeys
  rw [if_neg asked, given]
  simp only [parsed]
  cases o.orderBy <;> cases o.order <;> rfl

theorem sortKeys_keeps (o : ListOptions) {fields : List (String × Json)}
    (canon : (Json.obj fields).canonical = true) :
    (Json.obj (o.sortKeys fields)).canonical = true ∧
      (Json.obj (o.sortKeys fields)).depth ≤ max (Json.obj fields).depth 1 ∧
      ∀ s ∈ (Json.obj (o.sortKeys fields)).texts,
        s ∈ (Json.obj fields).texts ∨ s = "+order_by" ∨ o.orderBy = some s ∨ s = "+order" ∨
          o.order.map SortOrder.name = some s := by
  obtain ⟨canon₁, deep₁, texts₁⟩ := Json.insertSome_keeps "+order_by" o.orderBy canon
  obtain ⟨canon₂, deep₂, texts₂⟩ := Json.insertSome_keeps "+order" (o.order.map SortOrder.name) canon₁
  unfold sortKeys
  refine ⟨canon₂, by omega, fun s mem => ?_⟩
  rcases texts₂ s mem with earlier | key | direction
  · rcases texts₁ s earlier with old | key | column
    · exact .inl old
    · exact .inr (.inl key)
    · exact .inr (.inr (.inl column))
  · exact .inr (.inr (.inr (.inl key)))
  · exact .inr (.inr (.inr (.inr direction)))

end ListOptions

theorem Client.requestHeaders_filter (c : Client) (r : ApiRequest) (s : String) :
    c.requestHeaders (r.withFilter (some s)) =
      (c.requestHeaders (r.withFilter none)).bind fun hs =>
        if Http.validValue s.toUTF8 then .ok (hs.insert "x-filter" s.toUTF8)
        else .error (.validation "Invalid filter: failed to parse header value") := by
  unfold Client.requestHeaders ApiRequest.withFilter
  dsimp only
  cases c.token with
  | none => rfl
  | some t =>
    dsimp only
    split <;> rfl

theorem Filter.toJson_obj (f : Filter) : ∃ fields, f.toJson = .obj fields := by
  cases f with
  | compare column op value =>
    cases op
    case eq => exact ⟨_, by rw [Filter.toJson]⟩
    all_goals exact ⟨_, by rw [Filter.toJson]; intro same; cases same⟩
  | all children => exact ⟨_, by rw [Filter.toJson]⟩
  | any children => exact ⟨_, by rw [Filter.toJson]⟩

theorem Client.requestHeaders_printable (c : Client) (r : ApiRequest) {v : Json} (canon : v.canonical = true)
    (printable : ∀ s ∈ v.texts, '\x7f' ∉ s.toList) :
    c.requestHeaders (r.withFilter (some v.render)) =
      (c.requestHeaders (r.withFilter none)).map fun hs => hs.insert "x-filter" v.render.toUTF8 := by
  have valid : Http.validValue v.render.toUTF8 = true := by
    rw [Http.validValue_toUTF8]
    exact Json.render_value v canon printable
  rw [Client.requestHeaders_filter, valid]
  cases c.requestHeaders (r.withFilter none) <;> rfl

/-- For canonical filters nesting at most 127 levels with no DEL, the filter header reads back
as the filter's JSON with the sort keys and the request fails on nothing new. -/
theorem filter_header_reaches_request (f : Filter) (o : ListOptions) (given : o.filter = some f.render)
    (canon : f.toJson.canonical = true) (shallow : f.toJson.depth ≤ 127)
    (printable : ∀ s ∈ f.toJson.texts, '\x7f' ∉ s.toList)
    (column : ∀ k, o.orderBy = some k → '\x7f' ∉ k.toList) :
    ∃ s fields, o.filterHeader = .ok (some s) ∧ f.toJson = .obj fields ∧
      Json.parseString s = .ok (.obj (o.sortKeys fields)) ∧
      ∀ (c : Client) (r : ApiRequest), c.requestHeaders (r.withFilter (some s)) =
        (c.requestHeaders (r.withFilter none)).map fun hs => hs.insert "x-filter" s.toUTF8 := by
  obtain ⟨fields, json⟩ := f.toJson_obj
  have parsed : Json.parseString f.render = .ok (.obj fields) := by
    rw [Json.parseString, Filter.render, ← json]
    exact Json.parse_render _ canon (by omega)
  by_cases unsorted : o.orderBy = none ∧ o.order = none
  · -- the filter goes out as it was given
    have same : o.sortKeys fields = fields := by
      unfold ListOptions.sortKeys
      rw [unsorted.1, unsorted.2]
      rfl
    refine ⟨f.render, fields, ?_, json, by rw [same]; exact parsed, ?_⟩
    · rw [ListOptions.filterHeader_unsorted o unsorted.1 unsorted.2, given]
    · exact fun c r => c.requestHeaders_printable r canon printable
  · -- the filter is read, the sort keys put in, and the object written again
    rw [json] at canon shallow printable
    obtain ⟨canon', deep, named⟩ := o.sortKeys_keeps canon
    have printable' : ∀ s ∈ (Json.obj (o.sortKeys fields)).texts, '\x7f' ∉ s.toList := by
      intro s mem
      rcases named s mem with old | key | chosen | key | direction
      · exact printable s old
      · rw [key]; decide
      · exact column s chosen
      · rw [key]; decide
      · obtain ⟨ord, -, named⟩ := Option.map_eq_some_iff.mp direction
        rw [← named]
        cases ord <;> decide
    refine ⟨_, fields, ListOptions.filterHeader_sorted unsorted given parsed, json,
      Json.parse_render _ canon' (by omega), ?_⟩
    exact fun c r => c.requestHeaders_printable r canon' printable'

theorem web_filter_reaches_request :
    let f := Filter.all [.compare "label" .eq (.str "web"), .compare "vcpus" .gte (Json.nat 2)]
    let o : ListOptions := { filter := some f.render, orderBy := some "label", order := some .descending }
    ∃ s fields, o.filterHeader = .ok (some s) ∧ f.toJson = .obj fields ∧
      Json.parseString s = .ok (.obj (o.sortKeys fields)) ∧
      ∀ (c : Client) (r : ApiRequest), c.requestHeaders (r.withFilter (some s)) =
        (c.requestHeaders (r.withFilter none)).map fun hs => hs.insert "x-filter" s.toUTF8 := by
  intro f o
  have json : f.toJson = .obj [("+and", .arr [.obj [("label", .str "web")],
      .obj [("vcpus", .obj [("+gte", Json.nat 2)])]])] := by
    simp [f, Filter.toJson, Operator.key]
  exact filter_header_reaches_request f o rfl (by rw [json]; decide) (by rw [json]; decide)
    (by rw [json]; decide) (fun k named => by simp only [o, Option.some.injEq] at named; subst named; decide)

theorem del_filter_fails_request :
    let f := Filter.compare "label" .eq (.str "a\x7fb")
    let o : ListOptions := { filter := some f.render }
    o.filterHeader = .ok (some f.render) ∧
      ∀ (c : Client) (r : ApiRequest), c.requestHeaders (r.withFilter (some f.render)) =
        (c.requestHeaders (r.withFilter none)).bind fun _ =>
          .error (.validation "Invalid filter: failed to parse header value") := by
  intro f o
  have json : f.toJson = .obj [("label", .str "a\x7fb")] := by
    simp [f, Filter.toJson]
  have del : Json.bytesOf (Json.escapeChar '\x7f') = [0x7F] := by
    rw [show Json.escapeChar '\x7f' = ('\x7f').toString from rfl]
    simp only [Json.bytesOf, Char.toString, String.toList_singleton]
    decide
  have inString : 0x7F ∈ Json.bytesOf (Json.quote "a\x7fb") := by
    rw [Json.bytesOf_quote, Json.escapedBytes]
    exact List.mem_append_left _ (List.mem_cons_of_mem _
      (List.mem_flatMap.mpr ⟨'\x7f', by decide, by rw [del]; exact List.mem_singleton_self _⟩))
  have invalid : Http.validValue f.render.toUTF8 = false := by
    rw [Filter.render, json, Http.validValue_toUTF8, List.all_eq_false, Json.bytesOf_render_obj,
      Json.bytesOf_renderFields]
    exact ⟨0x7F, List.mem_append_left _ (List.mem_cons_of_mem _ (List.mem_append_left _
      (List.mem_append_right _ (List.mem_cons_of_mem _ inString)))), by decide⟩
  refine ⟨ListOptions.filterHeader_unsorted o rfl rfl, fun c r => ?_⟩
  rw [Client.requestHeaders_filter, invalid]
  rfl

end CloudApi
