import CloudApi.Client.Config

/-!
# Request addresses beneath the base

A request path leaves the versioned base by a scheme, a leading slash or backslash, or a `..`
segment; with none of these it stays beneath the base (`relative_path_stays_beneath_base`). The
path reader carries this as an invariant (`readSegments_keeps`).
-/

namespace CloudApi.Web

/-- The segments of a path up to its query or fragment, the first one continuing `acc`. -/
def pathSegments (special : Bool) (acc : List Char) : List Char → List (List Char)
  | [] => [acc]
  | c :: cs =>
    if c == '/' || (special && c == '\\') then acc :: pathSegments special [] cs
    else if c == '?' || c == '#' then [acc]
    else pathSegments special (acc ++ (encodeChar .path c).toList) cs

theorem closeSegment_keeps {P p : List Char} {start : Nat} {slash : Bool}
    (kept : P <+: p) (within : P.length ≤ start)
    (notParent : isDoubleDot (String.ofList ((if slash then p.dropLast else p).drop start)) = false) :
    P <+: (closeSegment false p start slash).1 := by
  have cut : P <+: p.take start := List.prefix_take_iff.2 ⟨kept, within⟩
  unfold closeSegment
  simp only [notParent, Bool.false_eq_true, Bool.false_and, ↓reduceIte]
  by_cases single : isSingleDot (String.ofList ((if slash then p.dropLast else p).drop start)) = true
  · rw [if_pos single]
    split
    · exact cut.trans (List.prefix_append _ _)
    · exact cut
  · rw [if_neg single]
    exact kept

theorem readSegments_keeps (special : Bool) {P : List Char} :
    ∀ (cs p : List Char) (start : Nat) (drive : Bool), P <+: p → P.length ≤ start →
      start ≤ p.length →
      (∀ s ∈ pathSegments special (p.drop start) cs, isDoubleDot (String.ofList s) = false) →
      P <+: (readSegments special false p start drive cs).1 := by
  intro cs
  -- each closed segment is named before the reader's `let` takes it apart, so that Lean never
  -- evaluates `closeSegment` on a text it does not know
  induction cs with
  | nil =>
    intro p start drive kept within _ noParent
    have closed : P <+: (closeSegment false p start false).1 :=
      closeSegment_keeps kept within (noParent _ (by simp [pathSegments]))
    unfold readSegments
    generalize closeSegment false p start false = out at closed
    obtain ⟨q, d⟩ := out
    exact closed
  | cons c cs ih =>
    intro p start drive kept within inside noParent
    unfold readSegments
    by_cases slash : (c == '/' || (special && c == '\\')) = true
    · simp only [pathSegments, slash, if_true, List.mem_cons] at noParent
      rw [if_pos slash]
      have closed : P <+: (closeSegment false (p ++ ['/']) start true).1 :=
        closeSegment_keeps (kept.trans (List.prefix_append _ _)) within
          (by rw [if_pos rfl, List.dropLast_concat]; exact noParent _ (.inl rfl))
      have rest := fun d => ih _ _ d closed closed.length_le (Nat.le_refl _)
        (by rw [List.drop_length]; exact fun s mem => noParent s (.inr mem))
      generalize closeSegment false (p ++ ['/']) start true = out at closed rest
      obtain ⟨q, d⟩ := out
      exact rest _
    · rw [if_neg slash]
      simp only [pathSegments, slash, Bool.false_eq_true, ↓reduceIte] at noParent
      split
      · rename_i stop
        simp only [stop, ↓reduceIte, List.mem_singleton, forall_eq] at noParent
        have closed : P <+: (closeSegment false p start false).1 :=
          closeSegment_keeps kept within (by rw [if_neg Bool.false_ne_true]; exact noParent)
        generalize closeSegment false p start false = out at closed
        obtain ⟨q, d⟩ := out
        exact closed
      · rename_i more
        simp only [more, Bool.false_eq_true, ↓reduceIte] at noParent
        simp only [Bool.false_and, Bool.false_eq_true, ↓reduceIte]
        apply ih _ _ _ (kept.trans (List.prefix_append _ _)) within
          (by rw [List.length_append]; omega)
        rw [List.drop_append_of_le_length inside]
        exact noParent

theorem lastIndexOf_concat (x : Char) (l : List Char) : lastIndexOf x (l ++ [x]) = some l.length := by
  simp [lastIndexOf, List.zipIdx_append, List.filter_append]

theorem textOf_concat (ps : List String) (s : String) :
    textOf (ps ++ [s]) = textOf ps ++ '/' :: s.toList := by
  simp [textOf]

theorem popSegment_of_dir {ps : List String} (dir : ps.getLast? = some "") :
    popSegment false (textOf ps) = textOf ps := by
  obtain ⟨front, rfl⟩ := List.getLast?_eq_some_iff.1 dir
  rw [textOf_concat]
  simp only [popSegment, String.toList_empty, lastIndexOf_concat]
  exact List.take_of_length_le (by simp)

theorem textOf_splitOnChar (rest : List Char) :
    ((splitOnChar '/' rest).map fun s => '/' :: s).flatten = '/' :: rest := by
  induction rest with
  | nil => rfl
  | cons c rest ih =>
    unfold splitOnChar
    by_cases slash : c = '/'
    · subst slash
      simp [ih]
    · cases pieces : splitOnChar '/' rest with
      | nil => simp [pieces] at ih
      | cons piece more =>
        rw [pieces] at ih
        simp only [List.map_cons, List.flatten_cons, List.cons_append, List.cons.injEq] at ih
        simp [slash, ih]

theorem textOf_rooted (ps : List String) (nonempty : ps ≠ []) : ∃ rest, textOf ps = '/' :: rest := by
  cases ps with
  | nil => exact absurd rfl nonempty
  | cons s ps => exact ⟨_, rfl⟩

theorem textOf_segmentsOf (rest : List Char) : textOf (segmentsOf ('/' :: rest)) = '/' :: rest := by
  simp only [textOf, segmentsOf, List.map_map]
  simpa [Function.comp_def, String.toList_ofList] using textOf_splitOnChar rest

theorem Url.pathText_toList {u : Url} {ps : List String} (segs : u.path = .segments ps) :
    u.pathText.toList = textOf ps := by
  simp [Url.pathText, segs, textOf, String.toList_join, List.flatMap_map, List.flatten_eq_flatMap]


theorem withTail_frame (u : Url) (cs : List Char) :
    ∃ q f, withTail u cs = { u with query := q, fragment := f } := by
  unfold withTail
  split
  · dsimp only
    split <;> exact ⟨_, _, rfl⟩
  · exact ⟨_, _, rfl⟩
  · exact ⟨_, _, rfl⟩

/-- An address beneath a base: the same origin, and a path starting with the base's path. -/
structure Url.Beneath (base u : Url) : Prop where
  scheme : u.scheme = base.scheme
  username : u.username = base.username
  password : u.password = base.password
  host : u.host = base.host
  port : u.port = base.port
  path : base.pathText.toList <+: u.pathText.toList

theorem Url.Beneath.withTail {base u : Url} (below : Url.Beneath base u) (cs : List Char) :
    Url.Beneath base (Web.withTail u cs) := by
  obtain ⟨q, f, framed⟩ := withTail_frame u cs
  rw [framed]
  exact ⟨below.scheme, below.username, below.password, below.host, below.port, below.path⟩

theorem withPath_eq (url : Url) (notFile : url.scheme ≠ "file") (p cs : List Char) :
    ∃ tail, withPath url p cs = Web.withTail
      { url with path := .segments (segmentsOf (readSegments (isSpecial url.scheme) false p p.length false cs).1) } tail := by
  have plain : (url.scheme == "file") = false := by simp [notFile]
  unfold withPath readPath
  rw [plain]
  exact ⟨_, rfl⟩

theorem relativeFrom_beneath {base : Url} {ps : List String} {cs : List Char}
    (notFile : base.scheme ≠ "file") (segs : base.path = .segments ps) (dir : ps.getLast? = some "")
    (notRooted : cs.head? ≠ some '/' ∧ cs.head? ≠ some '\\')
    (noParent : ∀ s ∈ pathSegments (isSpecial base.scheme) [] cs,
      isDoubleDot (String.ofList s) = false) :
    ∃ u, relativeFrom base cs = .ok u ∧ Url.Beneath base u := by
  unfold relativeFrom
  cases cs with
  | nil => exact ⟨_, rfl, rfl, rfl, rfl, rfl, rfl, List.prefix_refl _⟩
  | cons c r =>
    obtain ⟨notSlash, notBack⟩ := notRooted
    simp only [List.head?_cons, ne_eq, Option.some.injEq] at notSlash notBack
    have kept (q : Option String) : Url.Beneath base { base with query := q, fragment := none } :=
      ⟨rfl, rfl, rfl, rfl, rfl, List.prefix_refl _⟩
    dsimp only
    rw [if_neg (by simp [notSlash, notBack])]
    split
    · exact ⟨_, rfl, (kept none).withTail _⟩
    · split
      · exact ⟨_, rfl, (kept base.query).withTail _⟩
      · -- the path is read onto the base's own, which ends with a slash
        simp only [segs, popSegment_of_dir dir]
        obtain ⟨front, rfl⟩ := List.getLast?_eq_some_iff.1 dir
        have opened : textOf (front ++ [""]) = textOf front ++ ['/'] := by
          rw [textOf_concat]; rfl
        let inherited : Url := { base with path := .segments [], query := none, fragment := none }
        obtain ⟨tail, read⟩ := withPath_eq inherited notFile (textOf (front ++ [""])) (c :: r)
        rw [if_neg (by simp [opened])]
        refine ⟨_, rfl, ?_⟩
        rw [read]
        apply Url.Beneath.withTail
        have kept := readSegments_keeps (isSpecial base.scheme) (c :: r) (textOf (front ++ [""])) _
          false (List.prefix_refl _) (Nat.le_refl _) (Nat.le_refl _) (by rw [List.drop_length]; exact noParent)
        generalize (readSegments _ false _ _ false (c :: r)).1 = p at kept ⊢
        obtain ⟨rest, rooted⟩ := textOf_rooted (front ++ [""]) (by simp)
        obtain ⟨more, rfl⟩ := kept
        refine ⟨rfl, rfl, rfl, rfl, rfl, ?_⟩
        rw [Url.pathText_toList segs, Url.pathText_toList rfl, rooted, List.cons_append, textOf_segmentsOf]
        exact List.prefix_append _ _

theorem join_of_relative {base : Url} {ps : List String} {input : String}
    (notFile : base.scheme ≠ "file") (segs : base.path = .segments ps)
    (noScheme : schemeOf (cleanInput input) = none) :
    base.join input = relativeFrom base (cleanInput input) := by
  unfold Url.join Url.parse
  simp only [noScheme, segs]
  rw [if_neg (by simpa using notFile)]

end CloudApi.Web

namespace CloudApi

/-- What a request path is resolved as, as the address reader sees it. -/
def requestReference (path : String) : List Char := Web.cleanInput (Text.trimStartChar path '/')

/-- A reference with no scheme, no root and no `..` segment, however spelled. -/
structure RelativeReference (special : Bool) (cs : List Char) : Prop where
  noScheme : Web.schemeOf cs = none
  notRooted : cs.head? ≠ some '/' ∧ cs.head? ≠ some '\\'
  noParent : ∀ s ∈ Web.pathSegments special [] cs, Web.isDoubleDot (String.ofList s) = false

theorem relative_path_stays_beneath_base (base : Web.Url) (ps : List String) (path : String)
    (notFile : base.scheme ≠ "file") (segs : base.path = .segments ps) (dir : ps.getLast? = some "")
    (relative : RelativeReference (Web.isSpecial base.scheme) (requestReference path)) :
    ∃ u, requestUrl base path = .ok u ∧ base.Beneath u := by
  obtain ⟨u, resolved, beneath⟩ := Web.relativeFrom_beneath notFile segs dir relative.notRooted
    relative.noParent
  refine ⟨u, ?_, beneath⟩
  unfold requestUrl
  rw [Web.join_of_relative notFile segs relative.noScheme]
  unfold requestReference at resolved
  rw [resolved]

theorem parent_segment_leaves_version :
    let base : Web.Url :=
      { scheme := "https", host := some (.domain "api.linode.com"), path := .segments ["v4", ""] }
    (requestUrl base "../v3/regions").toOption.map Web.Url.href =
      some "https://api.linode.com/v3/regions" := by
  decide +kernel

theorem instance_path_stays_beneath_base :
    let base : Web.Url :=
      { scheme := "https", host := some (.domain "api.linode.com"), path := .segments ["v4", ""] }
    RelativeReference (Web.isSpecial base.scheme) (requestReference "linode/instances/123") ∧
      ∃ u, requestUrl base "linode/instances/123" = .ok u ∧ base.Beneath u :=
  have relative := ⟨by decide +kernel, by decide +kernel, by decide +kernel⟩
  ⟨relative, relative_path_stays_beneath_base _ ["v4", ""] _ (by decide) rfl rfl relative⟩

end CloudApi
