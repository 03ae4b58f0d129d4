import CloudApi.Proofs.CacheHistory

/-!
# What a lookup in the response cache finds

Along a history of operations a lookup finds a body exactly when the cache is on and the body is
that of the last live store of the key (`get_finds_last_live_store`). `Op.apply_entries` says once
what an operation does to the entries; the history facts follow from it.
-/

namespace CloudApi.Http.Cache

/-- A cache and the instant it is read at. -/
structure Timed where
  cache : Cache
  now : Nat

/-- One thing done to a cache. -/
inductive Op where
  | insert (key path : String) (body : ByteArray)
  | get (key : String)
  | clear
  | invalidate (endpoint : String)
  | setEnabled (on : Bool)
  | setLifetime (ms : Nat)
  | advance (ms : Nat)

/-- The cache after an operation. -/
def Op.apply (s : Timed) : Op → Timed
  | .insert key path body => { s with cache := s.cache.insert key path body s.now }
  | .get key => { s with cache := (s.cache.get? key s.now).2 }
  | .clear => { s with cache := s.cache.clear }
  | .invalidate endpoint => { s with cache := (s.cache.invalidate endpoint).2 }
  | .setEnabled on => { s with cache := { s.cache with enabled := on } }
  | .setLifetime ms => { s with cache := { s.cache with lifetime := ms } }
  | .advance ms => { s with now := s.now + ms }

namespace Timed

/-- The cache after a history of operations, done in turn. -/
def run (s : Timed) (ops : List Op) : Timed := ops.foldl Op.apply s

/-- Each operation of a history with the cache it met. -/
def trace : Timed → List Op → List (Timed × Op)
  | _, [] => []
  | s, op :: ops => (s, op) :: trace (op.apply s) ops

theorem run_append (s : Timed) (ops more : List Op) : s.run (ops ++ more) = (s.run ops).run more :=
  List.foldl_append

theorem run_concat (s : Timed) (ops : List Op) (op : Op) :
    s.run (ops ++ [op]) = op.apply (s.run ops) := by
  rw [run_append]
  rfl

theorem trace_concat (s : Timed) (ops : List Op) (op : Op) :
    s.trace (ops ++ [op]) = s.trace ops ++ [(s.run ops, op)] := by
  induction ops generalizing s with
  | nil => rfl
  | cons o rest ih =>
    simp only [List.cons_append, trace, ih]
    rfl

end Timed

/-- Met in `s`, an operation leaves alone an entry stored at `t` under `key` for `path`. -/
def Spares (key path : String) (t : Nat) : Timed × Op → Prop
  | (s, .insert key' _ _) => s.cache.enabled = true → key' ≠ key ∧ s.now < t + s.cache.lifetime
  | (s, .get key') => s.cache.enabled = true → key' = key → s.now < t + s.cache.lifetime
  | (_, .clear) => False
  | (_, .invalidate endpoint) => pathNames path endpoint = false
  | _ => True

/-! ### What one operation does to the entries -/

theorem lookup_of_mem {l : List (String × CacheEntry)} {k : String} {e : CacheEntry}
    (nodup : (l.map Prod.fst).Nodup) (mem : (k, e) ∈ l) : l.lookup k = some e := by
  induction l with
  | nil => cases mem
  | cons x rest ih =>
    obtain ⟨k', e'⟩ := x
    simp only [List.map_cons, List.nodup_cons] at nodup
    rw [List.lookup_cons]
    rcases List.mem_cons.1 mem with same | later
    · cases same
      simp
    · have other : k ≠ k' := fun same => nodup.1 (same ▸ List.mem_map.2 ⟨_, later, rfl⟩)
      rw [beq_false_of_ne other]
      exact ih nodup.2 later

theorem get?_of_mem {c : Cache} {k : String} {e : CacheEntry} (now : Nat) (on : c.enabled = true)
    (nodup : (c.entries.map Prod.fst).Nodup) (mem : (k, e) ∈ c.entries) :
    c.get? k now = if e.expired c.lifetime now then
      (none, { c with entries := c.entries.filter (·.1 != k) }) else (some e.body, c) := by
  simp only [get?, on, Bool.not_true, Bool.false_eq_true, ↓reduceIte, lookup_of_mem nodup mem]

theorem get?_off {c : Cache} (off : c.enabled = false) (k : String) (now : Nat) :
    c.get? k now = (none, c) := by
  simp [get?, off]

theorem insert_off {c : Cache} (off : c.enabled = false) (k path : String) (body : ByteArray)
    (now : Nat) : c.insert k path body now = c := by
  simp [insert, off]

theorem get?_sublist (c : Cache) (k : String) (now : Nat) : (c.get? k now).2.entries.Sublist c.entries := by
  rcases get?_state c k now with same | dropped
  · rw [same]
  · rw [dropped]
    exact List.filter_sublist

theorem get?_keeps_other {c : Cache} {k : String} {x : String × CacheEntry} (now : Nat)
    (held : x ∈ c.entries) (other : x.1 ≠ k) : x ∈ (c.get? k now).2.entries := by
  rcases get?_state c k now with same | dropped
  · rw [same]
    exact held
  · rw [dropped]
    exact List.mem_filter.2 ⟨held, by simpa using other⟩

theorem insert_mem {c : Cache} (on : c.enabled = true) (k path : String) (body : ByteArray)
    (now : Nat) : (k, ⟨path, body, now⟩) ∈ (c.insert k path body now).entries := by
  simp only [insert, on, Bool.not_true, Bool.false_eq_true, ↓reduceIte]
  split
  · rename_i present
    obtain ⟨y, live, same⟩ := List.any_eq_true.1 present
    refine List.mem_map.2 ⟨y, live, ?_⟩
    simp only [beq_iff_eq] at same
    simp [same]
  · exact List.mem_append_right _ (List.mem_singleton_self _)

theorem insert_keeps {c : Cache} {x : String × CacheEntry} (k path : String) (body : ByteArray)
    (now : Nat) (held : x ∈ c.entries) (other : x.1 ≠ k) (young : now < x.2.storedAt + c.lifetime) :
    x ∈ (c.insert k path body now).entries := by
  unfold insert
  split
  · exact held
  · have swept : x ∈ c.entries.filter fun y => !y.2.expired c.lifetime now :=
      List.mem_filter.2 ⟨held, by simp [CacheEntry.expired]; omega⟩
    dsimp only
    split
    · exact List.mem_map.2 ⟨x, swept, by simp [other]⟩
    · exact List.mem_append_left _ swept

theorem insert_keys_nodup (c : Cache) (k path : String) (body : ByteArray) (now : Nat)
    (nodup : (c.entries.map Prod.fst).Nodup) :
    ((c.insert k path body now).entries.map Prod.fst).Nodup := by
  unfold insert
  split
  · exact nodup
  · -- the sweep keeps a sublist; the store then replaces the entry of its key where it stands,
    -- or adds one under a key not yet there
    have swept : ((c.entries.filter fun y => !y.2.expired c.lifetime now).map Prod.fst).Nodup :=
      nodup.sublist (List.filter_sublist.map Prod.fst)
    dsimp only
    split
    · rw [List.map_map]
      convert swept using 1
      apply List.map_congr_left
      intro y _
      simp only [Function.comp]
      split <;> rfl
    · rename_i fresh
      rw [List.map_append, List.nodup_append]
      refine ⟨swept, List.nodup_singleton _, ?_⟩
      intro a stored b added same
      obtain ⟨y, live, rfl⟩ := List.mem_map.1 stored
      simp only [List.map_cons, List.map_nil, List.mem_singleton] at added
      subst added
      exact fresh (List.any_eq_true.2 ⟨y, live, by simp [same]⟩)

theorem Op.apply_entries (s : Timed) (op : Op) (nodup : (s.cache.entries.map Prod.fst).Nodup) :
    ∀ x ∈ (op.apply s).cache.entries,
      (∃ k path body, op = .insert k path body ∧ s.cache.enabled = true ∧
        x = (k, ⟨path, body, s.now⟩)) ∨
      (x ∈ s.cache.entries ∧ Spares x.1 x.2.path x.2.storedAt (s, op)) := by
  intro x mem
  cases op with
  | insert k path body =>
    cases on : s.cache.enabled with
    | false =>
      simp only [Op.apply, insert_off on] at mem
      exact .inr ⟨mem, fun on' => absurd (on.symm.trans on') Bool.false_ne_true⟩
    | true =>
      rcases insert_entries_live on x mem with new | ⟨held, other, young⟩
      · exact .inl ⟨k, path, body, rfl, rfl, new⟩
      · exact .inr ⟨held, fun _ => ⟨other.symm, young⟩⟩
  | get k =>
    have held := (get?_sublist s.cache k s.now).subset mem
    refine .inr ⟨held, fun on same => ?_⟩
    -- a lookup of the entry's own key that found it expired would have dropped it
    subst same
    simp only [Op.apply, get?_of_mem s.now on nodup held] at mem
    split at mem
    · simp at mem
    · rename_i young
      simpa [CacheEntry.expired] using young
  | clear => cases mem
  | invalidate endpoint =>
    obtain ⟨held, kept⟩ := invalidate_entries s.cache endpoint x mem
    exact .inr ⟨held, kept⟩
  | setEnabled | setLifetime | advance => exact .inr ⟨mem, trivial⟩

theorem Op.apply_keys_nodup (s : Timed) (op : Op) (nodup : (s.cache.entries.map Prod.fst).Nodup) :
    ((op.apply s).cache.entries.map Prod.fst).Nodup := by
  cases op with
  | insert k path body => exact insert_keys_nodup s.cache k path body s.now nodup
  | get k => exact nodup.sublist ((get?_sublist s.cache k s.now).map _)
  | clear => exact List.nodup_nil
  | invalidate endpoint => exact nodup.sublist (List.filter_sublist.map _)
  | setEnabled | setLifetime | advance => exact nodup

theorem Op.apply_keeps {s : Timed} {op : Op} {x : String × CacheEntry}
    (nodup : (s.cache.entries.map Prod.fst).Nodup) (held : x ∈ s.cache.entries)
    (spared : Spares x.1 x.2.path x.2.storedAt (s, op)) : x ∈ (op.apply s).cache.entries := by
  cases op with
  | insert k path body =>
    cases on : s.cache.enabled with
    | false =>
      simp only [Op.apply, insert_off on]
      exact held
    | true =>
      obtain ⟨other, young⟩ := spared on
      exact insert_keeps k path body s.now held other.symm young
  | get k =>
    by_cases same : k = x.1
    · cases on : s.cache.enabled with
      | false =>
        simp only [Op.apply, get?_off on]
        exact held
      | true =>
        have young := spared on same
        subst same
        simp only [Op.apply, get?_of_mem s.now on nodup held]
        rw [if_neg (by simp [CacheEntry.expired]; omega)]
        exact held
    · exact get?_keeps_other s.now held (Ne.symm same)
  | clear => exact spared.elim
  | invalidate endpoint =>
    simp only [Spares] at spared
    exact List.mem_filter.2 ⟨held, by simp [spared]⟩
  | setEnabled | setLifetime | advance => exact held

theorem invalidate_drops (c : Cache) (endpoint : String) :
    (c.invalidate endpoint).2.entries = c.entries.filter (fun x => !pathNames x.2.path endpoint) ∧
    (c.invalidate endpoint).1 = c.entries.countP (fun x => pathNames x.2.path endpoint) := by
  refine ⟨rfl, ?_⟩
  have parts := List.length_eq_countP_add_countP (fun x : String × CacheEntry =>
    pathNames x.2.path endpoint) (l := c.entries)
  have kept : (c.entries.filter fun x => !pathNames x.2.path endpoint).length =
      c.entries.countP (fun x => decide ¬pathNames x.2.path endpoint = true) := by
    -- rewrite the predicates, never unfold `pathNames` to compare them
    rw [List.countP_eq_length_filter]
    simp only [Bool.not_eq_true, Bool.decide_eq_false]
  simp only [invalidate]
  omega

/-! ### Along a history -/

namespace Timed

theorem run_keys_nodup (s : Timed) (ops : List Op) (nodup : (s.cache.entries.map Prod.fst).Nodup) :
    ((s.run ops).cache.entries.map Prod.fst).Nodup := by
  induction ops generalizing s with
  | nil => exact nodup
  | cons op rest ih => exact ih (op.apply s) (op.apply_keys_nodup s nodup)

theorem run_keeps {x : String × CacheEntry} (ops : List Op) :
    ∀ s : Timed, (s.cache.entries.map Prod.fst).Nodup → x ∈ s.cache.entries →
      (∀ y ∈ s.trace ops, Spares x.1 x.2.path x.2.storedAt y) → x ∈ (s.run ops).cache.entries := by
  induction ops with
  | nil => intro s _ held _; exact held
  | cons op rest ih =>
    intro s nodup held spared
    exact ih (op.apply s) (op.apply_keys_nodup s nodup)
      (Op.apply_keeps nodup held (spared (s, op) List.mem_cons_self))
      (fun y later => spared y (List.mem_cons_of_mem _ later))

end Timed

/-- Under `key`, `e` is the last store made with the cache on, spared by every later operation. -/
def LastStore (s₀ : Timed) (ops : List Op) (key : String) (e : CacheEntry) : Prop :=
  ∃ pre post, ops = pre ++ .insert key e.path e.body :: post ∧
    (s₀.run pre).cache.enabled = true ∧ e.storedAt = (s₀.run pre).now ∧
    ∀ y ∈ (s₀.run (pre ++ [.insert key e.path e.body])).trace post, Spares key e.path e.storedAt y

theorem LastStore.concat {s₀ : Timed} {ops : List Op} {key : String} {e : CacheEntry}
    (last : LastStore s₀ ops key e) {op : Op} (spared : Spares key e.path e.storedAt (s₀.run ops, op)) :
    LastStore s₀ (ops ++ [op]) key e := by
  obtain ⟨pre, post, rfl, on, stored, rest⟩ := last
  refine ⟨pre, post ++ [op], by simp, on, stored, ?_⟩
  rw [Timed.trace_concat]
  intro y mem
  rcases List.mem_append.1 mem with earlier | latest
  · exact rest y earlier
  · rw [List.mem_singleton] at latest
    subst latest
    rwa [← Timed.run_append, List.append_assoc, List.singleton_append]

/-- Every stored entry is the last store of its key. -/
def Remembers (s₀ : Timed) (ops : List Op) : Prop :=
  ∀ x ∈ (s₀.run ops).cache.entries, LastStore s₀ ops x.1 x.2

theorem remembers_concat {s₀ : Timed} {ops : List Op}
    (nodup : ((s₀.run ops).cache.entries.map Prod.fst).Nodup) (h : Remembers s₀ ops) (op : Op) :
    Remembers s₀ (ops ++ [op]) := by
  intro x mem
  rw [Timed.run_concat] at mem
  rcases op.apply_entries _ nodup x mem with ⟨k, path, body, rfl, on, rfl⟩ | ⟨held, spared⟩
  · exact ⟨ops, [], rfl, on, rfl, fun _ none => by cases none⟩
  · exact (h x held).concat spared

theorem run_remembers (s₀ : Timed) (fresh : s₀.cache.entries = []) (ops : List Op) :
    Remembers s₀ ops := by
  induction ops using List.reverseRecOn with
  | nil => intro x mem; simp [Timed.run, fresh] at mem
  | append_singleton ops op ih =>
    exact remembers_concat (Timed.run_keys_nodup s₀ ops (by simp [fresh])) ih op

/-- A lookup finds a body exactly when the cache is on and the body is that of the last store of
the key made with the cache on, younger than the lifetime now and dropped by nothing since. -/
theorem get_finds_last_live_store (on : Bool) (lifetime t₀ : Nat) (ops : List Op) (key : String)
    (body : ByteArray) :
    let s₀ : Timed := ⟨{ enabled := on, lifetime, entries := [] }, t₀⟩
    let s := s₀.run ops
    ((s.cache.get? key s.now).1 = some body ↔
      s.cache.enabled = true ∧ ∃ pre path post, ops = pre ++ .insert key path body :: post ∧
        (s₀.run pre).cache.enabled = true ∧ s.now < (s₀.run pre).now + s.cache.lifetime ∧
        ∀ y ∈ (s₀.run (pre ++ [.insert key path body])).trace post,
          Spares key path (s₀.run pre).now y) ∧
    (∀ (c : Cache) (endpoint : String),
      (c.invalidate endpoint).2.entries = c.entries.filter (fun x =>
        !(Text.trimEndChar x.2.path '/').endsWith ("/" ++ Text.trimChar endpoint '/')) ∧
      (c.invalidate endpoint).1 = c.entries.countP (fun x =>
        (Text.trimEndChar x.2.path '/').endsWith ("/" ++ Text.trimChar endpoint '/'))) ∧
    (∀ (c : Cache) (key path : String) (body : ByteArray) (now : Nat), c.enabled = false →
      (c.get? key now).2.entries = c.entries ∧ (c.insert key path body now).entries = c.entries) := by
  intro s₀ s
  have nodup : ∀ ops, ((s₀.run ops).cache.entries.map Prod.fst).Nodup :=
    fun ops => Timed.run_keys_nodup s₀ ops List.nodup_nil
  refine ⟨⟨fun found => ?_, fun ⟨enabled, pre, path, post, split, stored, young, spared⟩ => ?_⟩,
    invalidate_drops, fun c key path body now off => ⟨by rw [get?_off off], by rw [insert_off off]⟩⟩
  · obtain ⟨enabled, e, held, young, rfl⟩ := get?_hit found
    obtain ⟨pre, post, split, stored, storedAt, spared⟩ := run_remembers s₀ rfl ops (key, e) held
    refine ⟨enabled, pre, e.path, post, split, stored, ?_, ?_⟩
    · rw [← storedAt]
      exact young
    · rw [← storedAt]
      exact spared
  · -- the store's entry outlives the operations after it, and is the one its key finds
    have added := insert_mem stored key path body (s₀.run pre).now
    have kept := Timed.run_keeps post _ (nodup (pre ++ [.insert key path body]))
      (by rw [Timed.run_concat]; exact added) spared
    rw [← Timed.run_append, List.append_assoc, List.singleton_append, ← split] at kept
    change (s.cache.get? key s.now).1 = some body
    rw [get?_of_mem s.now enabled (nodup ops) kept, if_neg (by simp [CacheEntry.expired]; omega)]

end CloudApi.Http.Cache
