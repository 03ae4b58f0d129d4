import CloudApi.Proofs.JsonLiterals

/-!
# Reading printed values back

The text `Json.render` writes for a canonical value nesting fewer than 128 levels parses back to
it (`parse_render`). `Reads r c a c'` states one reader step; the round trip follows the value's
constructors.
-/

namespace CloudApi

namespace Json

/-- Reader `r`, run from cursor `c`, returns `a` and stops at cursor `c'`. -/
def Reads {α : Type} (r : Reader α) (c : Cursor) (a : α) (c' : Cursor) : Prop :=
  r.run.run c = (.ok a, c')

namespace Reads

variable {α β : Type} {c c₁ c₂ : Cursor}

theorem pure (a : α) : Reads (Pure.pure a : Reader α) c a c := rfl

theorem bind {x : Reader α} {f : α → Reader β} {a : α} {b : β}
    (first : Reads x c a c₁) (next : Reads (f a) c₁ b c₂) : Reads (x >>= f) c b c₂ := by
  unfold Reads at *
  simp only [ExceptT.run_bind, StateT.run_bind]
  rw [first]
  exact next

end Reads

theorem skipWhile_stop {bytes : ByteArray} {i : Nat} {b : UInt8} {r : List UInt8} (p : UInt8 → Bool)
    (text : ahead bytes i = b :: r) (stop : p b = false) : skipWhile p bytes i = i := by
  obtain ⟨inside, get⟩ := getElem_ahead text
  rw [skipWhile, dif_pos inside, get, stop]
  rfl

theorem skipWhile_end {bytes : ByteArray} {i : Nat} (p : UInt8 → Bool) (text : ahead bytes i = []) :
    skipWhile p bytes i = i := by
  rw [skipWhile, dif_neg (Nat.not_lt_of_le (size_of_ahead text))]

namespace Reader

variable {bytes : ByteArray} {i d : Nat} {b : UInt8} {r : List UInt8}

theorem peek?_reads {rest : List UInt8} (text : ahead bytes i = rest) :
    Reads peek? ⟨bytes, i, d⟩ rest.head? ⟨bytes, i, d⟩ := by
  simp only [Reads, peek?, ← text, ← getElem?_ahead]
  rfl

theorem get_reads (c : Cursor) : Reads get c c c := rfl

theorem set_reads (c c' : Cursor) : Reads (set c') c () c' := rfl

theorem modify_reads (f : Cursor → Cursor) (c : Cursor) : Reads (modify f) c () (f c) := rfl

theorem skipBlank_reads (text : ahead bytes i = b :: r) (solid : isBlank b = false) :
    Reads skipBlank ⟨bytes, i, d⟩ (some b) ⟨bytes, i, d⟩ := by
  unfold skipBlank
  refine Reads.bind (modify_reads _ _) ?_
  dsimp only
  rw [skipWhile_stop isBlank text solid]
  exact peek?_reads text

theorem skipBlank_end (text : ahead bytes i = []) : Reads skipBlank ⟨bytes, i, d⟩ none ⟨bytes, i, d⟩ := by
  unfold skipBlank
  refine Reads.bind (modify_reads _ _) ?_
  dsimp only
  rw [skipWhile_end isBlank text]
  exact peek?_reads text

theorem eat_reads : Reads eat ⟨bytes, i, d⟩ () ⟨bytes, i + 1, d⟩ := rfl

theorem next?_reads (text : ahead bytes i = b :: r) : Reads next? ⟨bytes, i, d⟩ (some b) ⟨bytes, i + 1, d⟩ := by
  unfold next?
  exact Reads.bind (peek?_reads text) (Reads.bind eat_reads (Reads.pure _))

theorem ident_reads : ∀ (bs : List UInt8) (i : Nat), ahead bytes i = bs ++ r →
    Reads (ident bs) ⟨bytes, i, d⟩ () ⟨bytes, i + bs.length, d⟩
  | [], i, _ => Reads.pure ()
  | b :: bs, i, text => by
    unfold ident
    refine Reads.bind (next?_reads text) ?_
    dsimp only
    rw [if_pos rfl, List.length_cons, Nat.add_comm bs.length 1, ← Nat.add_assoc]
    exact ident_reads bs (i + 1) (ahead_succ text)

theorem scan_reads {α : Type} {f : ByteArray → Nat → Except Error (α × Nat)} {a : α} {j : Nat}
    (h : f bytes i = .ok (a, j)) : Reads (scan f) ⟨bytes, i, d⟩ a ⟨bytes, j, d⟩ := by
  unfold scan
  refine Reads.bind (get_reads _) ?_
  dsimp only
  rw [h]
  exact Reads.bind (set_reads _ _) (Reads.pure a)

theorem enter_reads (room : 2 ≤ d) : Reads enter ⟨bytes, i, d⟩ () ⟨bytes, i + 1, d - 1⟩ := by
  unfold enter
  refine Reads.bind (get_reads _) ?_
  dsimp only
  rw [if_neg (by omega)]
  exact set_reads _ _

theorem leave_reads : Reads leave ⟨bytes, i, d⟩ () ⟨bytes, i, d + 1⟩ := rfl

theorem colon_reads (text : ahead bytes i = 0x3A :: r) : Reads colon ⟨bytes, i, d⟩ () ⟨bytes, i + 1, d⟩ := by
  unfold colon
  exact Reads.bind (skipBlank_reads text (by decide)) eat_reads

section Entries

variable {first : Bool} {close : UInt8} {comma eof : Fault}

theorem entryStart_close (text : ahead bytes i = close :: r) (solid : isBlank close = false) :
    Reads (entryStart first close comma eof) ⟨bytes, i, d⟩ (some close, true) ⟨bytes, i, d⟩ := by
  unfold entryStart
  refine Reads.bind (skipBlank_reads text solid) ?_
  dsimp only
  rw [if_pos rfl]
  exact Reads.pure _

theorem entryStart_first (text : ahead bytes i = b :: r) (solid : isBlank b = false) (opened : b ≠ close) :
    Reads (entryStart true close comma eof) ⟨bytes, i, d⟩ (some b, false) ⟨bytes, i, d⟩ := by
  unfold entryStart
  refine Reads.bind (skipBlank_reads text solid) ?_
  dsimp only
  rw [if_neg opened, if_neg (by simp), if_pos rfl]
  exact Reads.pure _

theorem entryStart_next (text : ahead bytes i = 0x2C :: b :: r) (solid : isBlank b = false)
    (apart : (0x2C : UInt8) ≠ close) :
    Reads (entryStart false close comma eof) ⟨bytes, i, d⟩ (some b, false) ⟨bytes, i + 1, d⟩ := by
  unfold entryStart
  refine Reads.bind (skipBlank_reads text (by decide)) ?_
  dsimp only
  rw [if_neg apart, if_pos (by simp)]
  exact Reads.bind eat_reads (Reads.bind (skipBlank_reads (ahead_succ text) solid) (Reads.pure _))

theorem nextElement_end {α : Type} {read : Reader α} (text : ahead bytes i = 0x5D :: r) :
    Reads (nextElement first read) ⟨bytes, i, d⟩ none ⟨bytes, i, d⟩ := by
  unfold nextElement
  refine Reads.bind (entryStart_close text (by decide)) ?_
  exact Reads.pure _

theorem nextElement_item {α : Type} {read : Reader α} {a : α} {c c' : Cursor}
    (start : Reads (entryStart first 0x5D .expectedListCommaOrEnd .eofList) ⟨bytes, i, d⟩ (some b, false) c)
    (notClose : b ≠ 0x5D) (item : Reads read c a c') :
    Reads (nextElement first read) ⟨bytes, i, d⟩ (some a) c' := by
  unfold nextElement
  refine Reads.bind start ?_
  dsimp only
  rw [if_neg Bool.false_ne_true]
  split
  · rename_i same; exact absurd (Option.some.inj same) notClose
  · rename_i same; cases same; exact Reads.bind item (Reads.pure _)
  · rename_i same; cases same

theorem nextKey_end (text : ahead bytes i = 0x7D :: r) :
    Reads (nextKey first) ⟨bytes, i, d⟩ none ⟨bytes, i, d⟩ := by
  unfold nextKey
  refine Reads.bind (entryStart_close text (by decide)) ?_
  exact Reads.pure _

theorem nextKey_key {j k : Nat} {key : String}
    (start : Reads (entryStart first 0x7D .expectedObjectCommaOrEnd .eofObject) ⟨bytes, i, d⟩
      (some 0x22, false) ⟨bytes, j, d⟩)
    (scanned : scanString bytes (j + 1) = .ok (key, k)) :
    Reads (nextKey first) ⟨bytes, i, d⟩ (some key) ⟨bytes, k, d⟩ := by
  unfold nextKey
  refine Reads.bind start ?_
  dsimp only
  rw [if_neg Bool.false_ne_true]
  exact Reads.bind eat_reads (Reads.bind (scan_reads scanned) (Reads.pure _))

end Entries

theorem Reads.to {α : Type} {x : Reader α} {c c₁ c₂ : Cursor} {a : α} (h : Reads x c a c₁) (same : c₁ = c₂) :
    Reads x c a c₂ := same ▸ h

-- Out of fuel the reader fails at once. Tagging these equations also generates the reader's
-- equation lemmas here, once, instead of in each proof below while they run side by side.
attribute [simp] valueWith.eq_1 itemsWith.eq_1 fieldsWith.eq_1

section Values

variable {fuel : Nat}

theorem valueWith_null (text : ahead bytes i = [0x6E, 0x75, 0x6C, 0x6C] ++ r) :
    Reads (valueWith (fuel + 1)) ⟨bytes, i, d⟩ .null ⟨bytes, i + 4, d⟩ := by
  unfold valueWith
  refine Reads.bind (skipBlank_reads text (by decide)) ?_
  dsimp only
  rw [if_pos rfl]
  exact Reads.bind eat_reads (Reads.bind (ident_reads [0x75, 0x6C, 0x6C] (i + 1) (ahead_succ text)) (Reads.pure _))

theorem valueWith_true (text : ahead bytes i = [0x74, 0x72, 0x75, 0x65] ++ r) :
    Reads (valueWith (fuel + 1)) ⟨bytes, i, d⟩ (.bool true) ⟨bytes, i + 4, d⟩ := by
  unfold valueWith
  refine Reads.bind (skipBlank_reads text (by decide)) ?_
  dsimp only
  rw [if_neg (by decide), if_pos rfl]
  exact Reads.bind eat_reads (Reads.bind (ident_reads [0x72, 0x75, 0x65] (i + 1) (ahead_succ text)) (Reads.pure _))

theorem valueWith_false (text : ahead bytes i = [0x66, 0x61, 0x6C, 0x73, 0x65] ++ r) :
    Reads (valueWith (fuel + 1)) ⟨bytes, i, d⟩ (.bool false) ⟨bytes, i + 5, d⟩ := by
  unfold valueWith
  refine Reads.bind (skipBlank_reads text (by decide)) ?_
  dsimp only
  rw [if_neg (by decide), if_neg (by decide), if_pos rfl]
  exact Reads.bind eat_reads
    (Reads.bind (ident_reads [0x61, 0x6C, 0x73, 0x65] (i + 1) (ahead_succ text)) (Reads.pure _))

theorem valueWith_nat {n : Nat} (text : ahead bytes i = bytesOf (toString n) ++ r) (ends : NumberEnd r)
    (small : n ≤ u64Max) :
    Reads (valueWith (fuel + 1)) ⟨bytes, i, d⟩ (.num (.nat n)) ⟨bytes, i + (bytesOf (toString n)).length, d⟩ := by
  obtain ⟨b, rest, lead, digit⟩ := digits_head n
  obtain ⟨solid, notN, notT, notF, notMinus, -⟩ := digit_not_mark digit
  have start := text
  rw [lead, List.cons_append] at start
  unfold valueWith
  refine Reads.bind (skipBlank_reads start solid) ?_
  dsimp only
  rw [if_neg notN, if_neg notT, if_neg notF, if_neg notMinus, if_pos digit]
  exact Reads.bind (scan_reads (scanNumber_nat text ends small)) (Reads.pure _)

theorem valueWith_neg {n : Int} (text : ahead bytes i = bytesOf (toString n) ++ r) (ends : NumberEnd r)
    (negative : n < 0) (large : -(Nat.pow 2 63 : Int) ≤ n) :
    Reads (valueWith (fuel + 1)) ⟨bytes, i, d⟩ (.num (.neg n)) ⟨bytes, i + (bytesOf (toString n)).length, d⟩ := by
  rw [bytesOf_negative negative, List.cons_append] at text
  rw [bytesOf_negative negative]
  have scanned := scanNumber_neg (ahead_succ text) ends (m := (-n).toNat) (by omega) (by omega)
  rw [Int.toNat_of_nonneg (by omega), Int.neg_neg] at scanned
  unfold valueWith
  refine Reads.bind (skipBlank_reads text (by decide)) ?_
  dsimp only
  rw [if_neg (by decide), if_neg (by decide), if_neg (by decide), if_pos rfl]
  refine Reads.to (Reads.bind eat_reads (Reads.bind (scan_reads scanned) (Reads.pure _))) ?_
  rw [List.length_cons, Nat.add_assoc, Nat.add_comm 1]

theorem valueWith_str {s : String} (text : ahead bytes i = bytesOf (quote s) ++ r) :
    Reads (valueWith (fuel + 1)) ⟨bytes, i, d⟩ (.str s) ⟨bytes, i + (bytesOf (quote s)).length, d⟩ := by
  rw [bytesOf_quote] at text ⊢
  simp only [List.cons_append, List.append_assoc] at text
  unfold valueWith
  refine Reads.bind (skipBlank_reads text (by decide)) ?_
  dsimp only
  rw [if_neg (by decide), if_neg (by decide), if_neg (by decide), if_neg (by decide), if_neg (by decide),
    if_pos rfl]
  refine Reads.to (Reads.bind eat_reads
    (Reads.bind (scan_reads (scanString_quote (ahead_succ text))) (Reads.pure _))) ?_
  simp only [List.length_cons, List.length_append, List.length_nil]
  congr 1
  omega

end Values

theorem endSeq_reads (text : ahead bytes i = 0x5D :: r) : Reads endSeq ⟨bytes, i, d⟩ () ⟨bytes, i + 1, d⟩ := by
  unfold endSeq
  exact Reads.bind (skipBlank_reads text (by decide)) eat_reads

theorem endMap_reads (text : ahead bytes i = 0x7D :: r) : Reads endMap ⟨bytes, i, d⟩ () ⟨bytes, i + 1, d⟩ := by
  unfold endMap
  exact Reads.bind (skipBlank_reads text (by decide)) eat_reads

section Containers

variable {fuel j : Nat} {r' : List UInt8}

theorem valueWith_arr {xs : List Json} (text : ahead bytes i = 0x5B :: r) (room : 2 ≤ d)
    (items : Reads (itemsWith fuel true []) ⟨bytes, i + 1, d - 1⟩ xs ⟨bytes, j, d - 1⟩)
    (close : ahead bytes j = 0x5D :: r') :
    Reads (valueWith (fuel + 1)) ⟨bytes, i, d⟩ (.arr xs) ⟨bytes, j + 1, d⟩ := by
  unfold valueWith
  refine Reads.bind (skipBlank_reads text (by decide)) ?_
  dsimp only
  rw [if_neg (by decide), if_neg (by decide), if_neg (by decide), if_neg (by decide), if_neg (by decide),
    if_neg (by decide), if_pos rfl]
  refine Reads.bind (enter_reads room) (Reads.bind items (Reads.bind leave_reads ?_))
  rw [Nat.sub_add_cancel (by omega)]
  exact Reads.bind (endSeq_reads close) (Reads.pure _)

theorem valueWith_obj {fs : List (String × Json)} (text : ahead bytes i = 0x7B :: r) (room : 2 ≤ d)
    (fields : Reads (fieldsWith fuel true []) ⟨bytes, i + 1, d - 1⟩ fs ⟨bytes, j, d - 1⟩)
    (close : ahead bytes j = 0x7D :: r') :
    Reads (valueWith (fuel + 1)) ⟨bytes, i, d⟩ (.obj fs) ⟨bytes, j + 1, d⟩ := by
  unfold valueWith
  refine Reads.bind (skipBlank_reads text (by decide)) ?_
  dsimp only
  rw [if_neg (by decide), if_neg (by decide), if_neg (by decide), if_neg (by decide), if_neg (by decide),
    if_neg (by decide), if_neg (by decide), if_pos rfl]
  refine Reads.bind (enter_reads room) (Reads.bind fields (Reads.bind leave_reads ?_))
  rw [Nat.sub_add_cancel (by omega)]
  exact Reads.bind (endMap_reads close) (Reads.pure _)

theorem itemsWith_end {first : Bool} {acc : List Json} (text : ahead bytes i = 0x5D :: r) :
    Reads (itemsWith (fuel + 1) first acc) ⟨bytes, i, d⟩ acc ⟨bytes, i, d⟩ := by
  unfold itemsWith
  exact Reads.bind (nextElement_end text) (Reads.pure _)

theorem itemsWith_item {first : Bool} {acc xs : List Json} {x : Json} {c c' c'' : Cursor}
    (start : Reads (entryStart first 0x5D .expectedListCommaOrEnd .eofList) ⟨bytes, i, d⟩ (some b, false) c)
    (notClose : b ≠ 0x5D) (item : Reads (valueWith fuel) c x c')
    (rest : Reads (itemsWith fuel false (acc ++ [x])) c' xs c'') :
    Reads (itemsWith (fuel + 1) first acc) ⟨bytes, i, d⟩ xs c'' := by
  unfold itemsWith
  exact Reads.bind (nextElement_item start notClose item) rest

theorem fieldsWith_end {first : Bool} {acc : List (String × Json)} (text : ahead bytes i = 0x7D :: r) :
    Reads (fieldsWith (fuel + 1) first acc) ⟨bytes, i, d⟩ acc ⟨bytes, i, d⟩ := by
  unfold fieldsWith
  exact Reads.bind (nextKey_end text) (Reads.pure _)

theorem fieldsWith_field {first : Bool} {acc fs : List (String × Json)} {k : String} {v : Json}
    {c' c'' : Cursor}
    (start : Reads (entryStart first 0x7D .expectedObjectCommaOrEnd .eofObject) ⟨bytes, i, d⟩
      (some 0x22, false) ⟨bytes, j, d⟩)
    (key : ahead bytes j = bytesOf (quote k) ++ 0x3A :: r)
    (value : Reads (valueWith fuel) ⟨bytes, j + (bytesOf (quote k)).length + 1, d⟩ v c')
    (rest : Reads (fieldsWith fuel false (Fields.insert k v acc)) c' fs c'') :
    Reads (fieldsWith (fuel + 1) first acc) ⟨bytes, i, d⟩ fs c'' := by
  have after : j + (bytesOf (quote k)).length + 1 = j + 1 + (escapedBytes k.toList).length + 1 + 1 := by
    simp only [bytesOf_quote, List.length_cons, List.length_append, List.length_nil]
    omega
  rw [after] at value
  rw [bytesOf_quote] at key
  simp only [List.cons_append, List.append_assoc, List.nil_append] at key
  have scanned := scanString_quote (ahead_succ key)
  have colonAt : ahead bytes (j + 1 + (escapedBytes k.toList).length + 1) = 0x3A :: r := by
    have past := ahead_append (l := 0x22 :: escapedBytes k.toList ++ [0x22]) (r := 0x3A :: r)
      (by rw [key]; simp)
    simp only [List.length_cons, List.length_append, List.length_nil] at past
    rw [← past]
    congr 1
    omega
  unfold fieldsWith
  exact Reads.bind (nextKey_key start scanned) (Reads.bind (colon_reads colonAt) (Reads.bind value rest))

end Containers

end Reader

/-! ### Values the reader gives back -/

end Json

/-- A number the reader reads back as itself: an integer in the range of its kind, not a double. -/
def Number.canonical : Number → Bool
  | .nat n => decide (n ≤ Json.u64Max)
  | .neg n => decide (-(Nat.pow 2 63 : Int) ≤ n ∧ n < 0)
  | .float _ => false

namespace Json

mutual
/-- A value in the form the reader builds: integers in range, keys strictly increasing. -/
def canonical : Json → Bool
  | .num n => n.canonical
  | .arr items => canonicalItems items
  | .obj fields => decide (fields.Pairwise fun a b => a.1 < b.1) && canonicalFields fields
  | _ => true

/-- Every value of a list is canonical. -/
def canonicalItems : List Json → Bool
  | [] => true
  | x :: xs => canonical x && canonicalItems xs

/-- Every value of a field list is canonical. -/
def canonicalFields : List (String × Json) → Bool
  | [] => true
  | (_, v) :: fs => canonical v && canonicalFields fs
end

mutual
/-- How many arrays and objects stand open at the deepest point of a value. -/
def depth : Json → Nat
  | .arr items => depthItems items + 1
  | .obj fields => depthFields fields + 1
  | _ => 0

/-- The greatest depth of a list of values. -/
def depthItems : List Json → Nat
  | [] => 0
  | x :: xs => max (depth x) (depthItems xs)

/-- The greatest depth of the values of a field list. -/
def depthFields : List (String × Json) → Nat
  | [] => 0
  | (_, v) :: fs => max (depth v) (depthFields fs)
end

/-- The text of a field: its key, a colon and its value. -/
def fieldBytes (f : String × Json) : List UInt8 := bytesOf (quote f.1) ++ 0x3A :: bytesOf f.2.render

/-- The text after the first element of an array: each further element after a comma. -/
def itemsTail : List Json → List UInt8
  | [] => []
  | x :: xs => 0x2C :: bytesOf x.render ++ itemsTail xs

/-- The text after the first field of an object: each further field after a comma. -/
def fieldsTail : List (String × Json) → List UInt8
  | [] => []
  | f :: fs => 0x2C :: fieldBytes f ++ fieldsTail fs

theorem bytesOf_comma : bytesOf "," = [0x2C] := rfl

theorem bytesOf_colon : bytesOf ":" = [0x3A] := rfl

theorem bytesOf_renderItems (x : Json) (xs : List Json) :
    bytesOf (renderItems (x :: xs)) = bytesOf x.render ++ itemsTail xs := by
  induction xs generalizing x with
  | nil => rw [renderItems, itemsTail, List.append_nil]
  | cons y ys ih =>
    rw [renderItems, bytesOf_append, bytesOf_append, ih, itemsTail, bytesOf_comma]
    · simp
    · exact List.cons_ne_nil y ys

theorem bytesOf_renderFields (f : String × Json) (fs : List (String × Json)) :
    bytesOf (renderFields (f :: fs)) = fieldBytes f ++ fieldsTail fs := by
  induction fs generalizing f with
  | nil => simp [renderFields, fieldsTail, bytesOf_append, fieldBytes, bytesOf_colon]
  | cons g gs ih =>
    rw [renderFields]
    · simp only [bytesOf_append, ih, fieldsTail, fieldBytes, bytesOf_comma, bytesOf_colon]
      simp
    · exact List.cons_ne_nil g gs

/-! ### Reading back a printed value -/

theorem Fields.insert_of_lt (k : String) (v : Json) :
    ∀ acc : List (String × Json), (∀ a ∈ acc, a.1 < k) → Fields.insert k v acc = acc ++ [(k, v)]
  | [], _ => rfl
  | (k', v') :: rest, below => by
    have lt := below (k', v') (List.mem_cons_self ..)
    rw [Fields.insert, if_neg (String.lt_asymm lt), if_neg (String.ne_of_lt lt).symm,
      insert_of_lt k v rest (fun a mem => below a (List.mem_cons_of_mem _ mem))]
    rfl

theorem bytesOf_render_arr (items : List Json) :
    bytesOf (render (.arr items)) = 0x5B :: bytesOf (renderItems items) ++ [0x5D] := by
  rw [render, bytesOf_append, bytesOf_append]
  rfl

theorem bytesOf_render_obj (fields : List (String × Json)) :
    bytesOf (render (.obj fields)) = 0x7B :: bytesOf (renderFields fields) ++ [0x7D] := by
  rw [render, bytesOf_append, bytesOf_append]
  rfl

theorem render_head (v : Json) (canon : v.canonical = true) :
    ∃ b rest, bytesOf v.render = b :: rest ∧ isBlank b = false ∧ b ≠ 0x5D := by
  match v, canon with
  | .null, _ => exact ⟨_, _, rfl, by decide, by decide⟩
  | .bool true, _ => exact ⟨_, _, rfl, by decide, by decide⟩
  | .bool false, _ => exact ⟨_, _, rfl, by decide, by decide⟩
  | .num (.nat n), _ =>
    obtain ⟨b, rest, lead, digit⟩ := digits_head n
    obtain ⟨solid, -, -, -, -, notClose⟩ := digit_not_mark digit
    exact ⟨b, rest, lead, solid, notClose⟩
  | .num (.neg n), canon =>
    have negative : n < 0 := (of_decide_eq_true canon).2
    exact ⟨_, _, bytesOf_negative negative, by decide, by decide⟩
  | .str s, _ => exact ⟨_, _, bytesOf_quote s, by decide, by decide⟩
  | .arr items, _ => exact ⟨_, _, bytesOf_render_arr items, by decide, by decide⟩
  | .obj fields, _ => exact ⟨_, _, bytesOf_render_obj fields, by decide, by decide⟩

theorem two_le_quote (s : String) : 2 ≤ (bytesOf (quote s)).length := by
  rw [bytesOf_quote, List.length_append, List.length_cons, List.length_singleton]
  omega

theorem numberEnd_items (xs : List Json) (r : List UInt8) : NumberEnd (itemsTail xs ++ 0x5D :: r) := by
  cases xs <;> (intro b mem; cases mem; decide)

theorem numberEnd_fields (fs : List (String × Json)) (r : List UInt8) :
    NumberEnd (fieldsTail fs ++ 0x7D :: r) := by
  cases fs <;> (intro b mem; cases mem; decide)

open Reader in
mutual
theorem valueWith_render : ∀ (v : Json) (fuel : Nat) {bytes : ByteArray} {i d : Nat} {r : List UInt8},
    v.canonical = true → v.depth < d → (bytesOf v.render).length ≤ fuel + 1 →
    ahead bytes i = bytesOf v.render ++ r → NumberEnd r →
    Reads (valueWith (fuel + 1)) ⟨bytes, i, d⟩ v ⟨bytes, i + (bytesOf v.render).length, d⟩
  | .null, _, _, _, _, _, _, _, _, text, _ => valueWith_null text
  | .bool true, _, _, _, _, _, _, _, _, text, _ => valueWith_true text
  | .bool false, _, _, _, _, _, _, _, _, text, _ => valueWith_false text
  | .num (.nat n), _, _, _, _, _, canon, _, _, text, ends => valueWith_nat text ends (of_decide_eq_true canon)
  | .num (.neg n), _, _, _, _, _, canon, _, _, text, ends =>
    valueWith_neg text ends (of_decide_eq_true canon).2 (of_decide_eq_true canon).1
  | .num (.float _), _, _, _, _, _, canon, _, _, _, _ => absurd canon Bool.false_ne_true
  | .str _, _, _, _, _, _, _, _, _, text, _ => valueWith_str text
  | .arr [], fuel, bytes, i, d, r, _, shallow, long, text, _ => by
    simp only [depth, depthItems] at shallow
    have opened : ahead bytes i = 0x5B :: 0x5D :: r := by rw [text, bytesOf_render_arr]; rfl
    have two : (bytesOf (render (.arr []))).length = 2 := by rw [bytesOf_render_arr]; rfl
    obtain ⟨g, rfl⟩ : ∃ g, fuel = g + 1 := ⟨fuel - 1, by omega⟩
    rw [two]
    exact valueWith_arr opened (by omega) (itemsWith_end (ahead_succ opened)) (ahead_succ opened)
  | .arr (x :: xs), fuel, bytes, i, d, r, canon, shallow, long, text, _ => by
    simp only [canonical, canonicalItems, Bool.and_eq_true] at canon
    simp only [depth, depthItems] at shallow
    obtain ⟨b, rest, lead, solid, notClose⟩ := render_head x canon.1
    have wide : 1 ≤ (bytesOf x.render).length := by rw [lead, List.length_cons]; omega
    rw [bytesOf_render_arr, bytesOf_renderItems] at text long ⊢
    simp only [List.cons_append, List.append_assoc, List.nil_append] at text
    simp only [List.length_cons, List.length_append, List.length_nil] at long ⊢
    obtain ⟨g, rfl⟩ : ∃ g, fuel = g + 2 := ⟨fuel - 2, by omega⟩
    have inner := ahead_succ text
    have opened : ahead bytes (i + 1) = b :: (rest ++ (itemsTail xs ++ 0x5D :: r)) := by
      rw [inner, lead, List.cons_append]
    have item := valueWith_render x g (d := d - 1) canon.1 (by omega) (by omega) inner (numberEnd_items xs r)
    have tail := itemsWith_tail xs (g + 1) (d := d - 1) [x] canon.2 (by omega) (by omega) (ahead_append inner)
    refine Reads.to (valueWith_arr text (by omega)
      (itemsWith_item (entryStart_first opened solid notClose) notClose item tail)
      (ahead_append (ahead_append inner))) ?_
    congr 1
    omega
  | .obj [], fuel, bytes, i, d, r, _, shallow, long, text, _ => by
    simp only [depth, depthFields] at shallow
    have opened : ahead bytes i = 0x7B :: 0x7D :: r := by rw [text, bytesOf_render_obj]; rfl
    have two : (bytesOf (render (.obj []))).length = 2 := by rw [bytesOf_render_obj]; rfl
    obtain ⟨g, rfl⟩ : ∃ g, fuel = g + 1 := ⟨fuel - 1, by omega⟩
    rw [two]
    exact valueWith_obj opened (by omega) (fieldsWith_end (ahead_succ opened)) (ahead_succ opened)
  | .obj ((k, v) :: fs), fuel, bytes, i, d, r, canon, shallow, long, text, _ => by
    simp only [canonical, canonicalFields, Bool.and_eq_true] at canon
    obtain ⟨sorted, canonV, canonFs⟩ := canon
    obtain ⟨above, sortedFs⟩ := List.pairwise_cons.mp (of_decide_eq_true sorted)
    simp only [depth, depthFields] at shallow
    rw [bytesOf_render_obj, bytesOf_renderFields] at text long ⊢
    simp only [fieldBytes, List.cons_append, List.append_assoc, List.nil_append] at text
    simp only [fieldBytes, List.length_cons, List.length_append, List.length_nil] at long ⊢
    have quoted := two_le_quote k
    obtain ⟨g, rfl⟩ : ∃ g, fuel = g + 2 := ⟨fuel - 2, by omega⟩
    have key := ahead_succ text
    have opened : ahead bytes (i + 1) =
        0x22 :: (escapedBytes k.toList ++ [0x22] ++ 0x3A :: (bytesOf v.render ++ (fieldsTail fs ++ 0x7D :: r))) := by
      rw [key, bytesOf_quote]
      simp only [List.cons_append, List.append_assoc]
    have inner := ahead_succ (ahead_append key)
    have value := valueWith_render v g (d := d - 1) canonV (by omega) (by omega) inner (numberEnd_fields fs r)
    have tail := fieldsWith_tail fs (g + 1) (d := d - 1) [(k, v)] canonFs sortedFs
      (fun a mem b later => by rw [List.mem_singleton] at mem; subst mem; exact above b later)
      (by omega) (by omega) (ahead_append inner)
    refine Reads.to (valueWith_obj text (by omega)
      (fieldsWith_field (entryStart_first opened (by decide) (by decide)) key value tail)
      (ahead_append (ahead_append inner))) ?_
    congr 1
    omega

theorem itemsWith_tail : ∀ (xs : List Json) (fuel : Nat) {bytes : ByteArray} {i d : Nat} {r : List UInt8}
    (acc : List Json), canonicalItems xs = true → depthItems xs < d → (itemsTail xs).length + 1 ≤ fuel →
    ahead bytes i = itemsTail xs ++ 0x5D :: r →
    Reads (itemsWith fuel false acc) ⟨bytes, i, d⟩ (acc ++ xs) ⟨bytes, i + (itemsTail xs).length, d⟩
  | [], fuel, bytes, i, d, r, acc, _, _, long, text => by
    obtain ⟨g, rfl⟩ : ∃ g, fuel = g + 1 := ⟨fuel - 1, by omega⟩
    rw [List.append_nil]
    exact itemsWith_end text
  | x :: xs, fuel, bytes, i, d, r, acc, canon, shallow, long, text => by
    simp only [canonicalItems, Bool.and_eq_true] at canon
    simp only [depthItems] at shallow
    obtain ⟨b, rest, lead, solid, notClose⟩ := render_head x canon.1
    have wide : 1 ≤ (bytesOf x.render).length := by rw [lead, List.length_cons]; omega
    rw [itemsTail] at text long ⊢
    simp only [List.cons_append, List.append_assoc] at text
    simp only [List.length_cons, List.length_append] at long ⊢
    obtain ⟨g, rfl⟩ : ∃ g, fuel = g + 2 := ⟨fuel - 2, by omega⟩
    have inner := ahead_succ text
    have opened : ahead bytes i = 0x2C :: b :: (rest ++ (itemsTail xs ++ 0x5D :: r)) := by
      rw [text, lead, List.cons_append]
    have item := valueWith_render x g (d := d) canon.1 (by omega) (by omega) inner (numberEnd_items xs r)
    have tail := itemsWith_tail xs (g + 1) (d := d) (acc ++ [x]) canon.2 (by omega) (by omega)
      (ahead_append inner)
    rw [show acc ++ x :: xs = acc ++ [x] ++ xs by simp]
    refine Reads.to (itemsWith_item (entryStart_next opened solid (by decide)) notClose item tail) ?_
    congr 1
    omega

theorem fieldsWith_tail : ∀ (fs : List (String × Json)) (fuel : Nat) {bytes : ByteArray} {i d : Nat}
    {r : List UInt8} (acc : List (String × Json)), canonicalFields fs = true →
    fs.Pairwise (fun a b => a.1 < b.1) → (∀ a ∈ acc, ∀ b ∈ fs, a.1 < b.1) →
    depthFields fs < d → (fieldsTail fs).length + 1 ≤ fuel →
    ahead bytes i = fieldsTail fs ++ 0x7D :: r →
    Reads (fieldsWith fuel false acc) ⟨bytes, i, d⟩ (acc ++ fs) ⟨bytes, i + (fieldsTail fs).length, d⟩
  | [], fuel, bytes, i, d, r, acc, _, _, _, _, long, text => by
    obtain ⟨g, rfl⟩ : ∃ g, fuel = g + 1 := ⟨fuel - 1, by omega⟩
    rw [List.append_nil]
    exact fieldsWith_end text
  | (k, v) :: fs, fuel, bytes, i, d, r, acc, canon, sorted, below, shallow, long, text => by
    simp only [canonicalFields, Bool.and_eq_true] at canon
    obtain ⟨above, sortedFs⟩ := List.pairwise_cons.mp sorted
    simp only [depthFields] at shallow
    rw [fieldsTail] at text long ⊢
    simp only [fieldBytes, List.cons_append, List.append_assoc] at text
    simp only [fieldBytes, List.length_cons, List.length_append] at long ⊢
    have quoted := two_le_quote k
    obtain ⟨g, rfl⟩ : ∃ g, fuel = g + 2 := ⟨fuel - 2, by omega⟩
    have key := ahead_succ text
    have opened : ahead bytes i = 0x2C ::
        0x22 :: (escapedBytes k.toList ++ [0x22] ++ 0x3A :: (bytesOf v.render ++ (fieldsTail fs ++ 0x7D :: r))) := by
      rw [text, bytesOf_quote]
      simp only [List.cons_append, List.append_assoc]
    have inner := ahead_succ (ahead_append key)
    have value := valueWith_render v g (d := d) canon.1 (by omega) (by omega) inner (numberEnd_fields fs r)
    have inserted : Fields.insert k v acc = acc ++ [(k, v)] :=
      Fields.insert_of_lt k v acc (fun a mem => below a mem (k, v) (List.mem_cons_self ..))
    have tail := fieldsWith_tail fs (g + 1) (d := d) (acc ++ [(k, v)]) canon.2 sortedFs ?_ (by omega) (by omega)
      (ahead_append inner)
    · rw [← inserted] at tail
      rw [show acc ++ (k, v) :: fs = Fields.insert k v acc ++ fs by rw [inserted]; simp]
      refine Reads.to (fieldsWith_field (entryStart_next opened (by decide) (by decide)) key value tail) ?_
      congr 1
      omega
    · intro a mem b later
      rcases List.mem_append.mp mem with old | new
      · exact below a old b (List.mem_cons_of_mem _ later)
      · rw [List.mem_singleton] at new
        subst new
        exact above b later
end

theorem Reader.finish_end {bytes : ByteArray} {j d : Nat} (done : ahead bytes j = []) :
    Reads Reader.finish ⟨bytes, j, d⟩ () ⟨bytes, j, d⟩ := by
  unfold Reader.finish
  exact Reads.bind (Reader.skipBlank_end done) (Reads.pure ())

theorem Reader.readAll_of_reads {α : Type} {r : Reader α} {bytes : ByteArray} {a : α} {j d : Nat}
    (read : Reads r ⟨bytes, 0, 128⟩ a ⟨bytes, j, d⟩) (done : ahead bytes j = []) :
    Reader.readAll r bytes = .ok a := by
  have whole : Reads (do let a ← r; Reader.finish; pure a) ⟨bytes, 0, 128⟩ a ⟨bytes, j, d⟩ :=
    Reads.bind read (Reads.bind (Reader.finish_end done) (Reads.pure a))
  unfold Reader.readAll
  unfold Reads at whole
  rw [whole]
  rfl

theorem parse_render (v : Json) (canon : v.canonical = true) (shallow : v.depth < 128) :
    parse v.render.toUTF8 = .ok v := by
  have text : ahead v.render.toUTF8 0 = bytesOf v.render ++ [] := by
    rw [ahead, List.drop_zero, toUTF8_data, List.append_nil]
  have size : v.render.toUTF8.size = (bytesOf v.render).length := by
    rw [← toUTF8_data, Array.length_toList]
    rfl
  have read := valueWith_render v (4 * v.render.toUTF8.size + 7) canon shallow (by omega) text
    (fun b mem => by cases mem)
  unfold parse Reader.value
  exact Reader.readAll_of_reads (Reads.bind (Reader.get_reads _) read) (ahead_append text)

end Json

end CloudApi
