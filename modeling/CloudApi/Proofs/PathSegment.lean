import CloudApi.Proofs.PercentRoundTrip
import CloudApi.Proofs.RequestAddress

/-!
# A caller's text as one path segment

A text percent-encoded as a segment decodes back to itself and holds no slash, `?` or `#`.
Between plain segments below a special directory base it is read as one segment exactly when it
holds no backslash and is neither `.` nor `..` (`caller_text_stays_one_segment`).
-/

namespace CloudApi.Web

open Json (bytesOf)

/-- A character the path reader of a special address keeps as it is inside one segment. -/
def pathChar (c : Char) : Bool :=
  0x20 < c.toNat && c.toNat < 0x7F && c != '/' && c != '\\' && !EncodeSet.path.extra.contains c

/-- A segment that the path reader of a special address reads as one segment, written as it is. -/
structure PlainSegment (seg : List Char) : Prop where
  chars : ∀ c ∈ seg, pathChar c = true
  notSingle : isSingleDot (String.ofList seg) = false
  notDouble : isDoubleDot (String.ofList seg) = false

/-! ### What a segment encoding writes -/

theorem escapeOctet_chars (b : UInt8) :
    (escapeOctet b).toList = ['%', hexDigit (b.toNat / 16), hexDigit (b.toNat % 16)] :=
  String.toList_ofList

theorem utf8EncodeChar_ascii {c : Char} (ascii : c.toNat < 0x80) :
    String.utf8EncodeChar c = [UInt8.ofNat c.toNat] := by
  unfold String.utf8EncodeChar
  rw [if_pos (by show c.toNat ≤ 127; omega)]
  rfl

theorem kept_ascii {s : EncodeSet} {c : Char}
    (kept : ¬ (String.utf8EncodeChar c).any s.escapes = true) :
    c.toNat < 0x80 ∧ String.utf8EncodeChar c = [UInt8.ofNat c.toNat] := by
  have ascii : c.toNat < 0x80 := by
    apply Nat.lt_of_not_le
    intro high
    -- past ASCII every octet of the character is past ASCII, and so escaped
    cases octets : String.utf8EncodeChar c with
    | nil => exact absurd octets (by simp)
    | cons b rest =>
      have lead := Json.utf8EncodeChar_bytes c b (by rw [octets]; exact List.mem_cons_self)
      apply kept
      rw [octets, List.any_cons, Bool.or_eq_true]
      left
      simp only [EncodeSet.escapes, Bool.or_eq_true, decide_eq_true_eq, UInt8.le_iff_toNat_le]
      left; right
      show 127 ≤ b.toNat
      omega
  exact ⟨ascii, utf8EncodeChar_ascii ascii⟩

theorem mem_encodeChar {s : EncodeSet} {c x : Char} (mem : x ∈ (encodeChar s c).toList) :
    (x = c ∧ c.toNat < 0x80 ∧ s.escapes (UInt8.ofNat c.toNat) = false) ∨ x = '%' ∨
      ∃ n < 16, x = hexDigit n := by
  unfold encodeChar at mem
  dsimp only at mem
  rw [octets_singleton] at mem
  split at mem
  · rw [String.toList_join] at mem
    obtain ⟨piece, within, mem⟩ := List.mem_flatMap.1 mem
    obtain ⟨b, _, rfl⟩ := List.mem_map.1 within
    rw [escapeOctet_chars] at mem
    simp only [List.mem_cons, List.not_mem_nil, or_false] at mem
    rcases mem with rfl | rfl | rfl
    · exact .inr (.inl rfl)
    · exact .inr (.inr ⟨_, by have := b.toNat_lt; omega, rfl⟩)
    · exact .inr (.inr ⟨_, Nat.mod_lt _ (by decide), rfl⟩)
  · rename_i kept
    obtain ⟨ascii, single⟩ := kept_ascii kept
    rw [String.toList_singleton, List.mem_singleton] at mem
    refine .inl ⟨mem, ascii, ?_⟩
    rw [single] at kept
    simpa using kept

theorem mem_percentEncode {set : EncodeSet} {t : String} {x : Char} :
    x ∈ (percentEncode set t).toList ↔ ∃ c ∈ t.toList, x ∈ (encodeChar set c).toList := by
  simp only [percentEncode, String.toList_join, List.flatMap_map, List.mem_flatMap]

theorem pathChar_escape_chars : pathChar '%' = true ∧ ∀ n < 16, pathChar (hexDigit n) = true := by
  decide

theorem pathChar_of_kept : ∀ n < 0x7F, 0x20 ≤ n →
    EncodeSet.segment.extra.contains (Char.ofNat n) = false → Char.ofNat n ≠ '\\' →
    pathChar (Char.ofNat n) = true := by
  decide

theorem mem_encodeSegment {c x : Char} (mem : x ∈ (encodeChar .segment c).toList) :
    (x = c ∧ (c = '\\' ∨ pathChar c = true)) ∨ pathChar x = true := by
  rcases mem_encodeChar mem with ⟨rfl, ascii, kept⟩ | rfl | ⟨n, small, rfl⟩
  · refine .inl ⟨rfl, ?_⟩
    have byte : (UInt8.ofNat x.toNat).toNat = x.toNat := byte_toNat (by omega)
    simp only [EncodeSet.escapes, Bool.or_eq_false_iff, decide_eq_false_iff_not,
      UInt8.lt_iff_toNat_lt, UInt8.le_iff_toNat_le, byte, Char.ofNat_toNat] at kept
    obtain ⟨⟨visible, below⟩, unlisted⟩ := kept
    by_cases backslash : x = '\\'
    · exact .inl backslash
    · have kept := pathChar_of_kept x.toNat (by simp at below; omega) (by simp at visible; omega)
        (by rw [Char.ofNat_toNat]; exact unlisted) (by rw [Char.ofNat_toNat]; exact backslash)
      rw [Char.ofNat_toNat] at kept
      exact .inr kept
  · exact .inr pathChar_escape_chars.1
  · exact .inr (pathChar_escape_chars.2 n small)

theorem percentDecode_encodeSegment (t : String) : percentDecode (percentEncode .segment t) = t :=
  percentDecode_percentEncode (by decide) t

theorem plainSegment_encode_iff (t : String) :
    PlainSegment (percentEncode .segment t).toList ↔ '\\' ∉ t.toList ∧ t ≠ "." ∧ t ≠ ".." := by
  have back := percentDecode_encodeSegment t
  constructor
  · intro plain
    refine ⟨fun backslash => ?_, fun dot => ?_, fun dots => ?_⟩
    · have kept : '\\' ∈ (encodeChar .segment '\\').toList := by decide +kernel
      have read := plain.chars '\\' (mem_percentEncode.2 ⟨_, backslash, kept⟩)
      exact absurd read (by decide)
    · have single := plain.notSingle
      rw [dot] at single
      exact absurd single (by decide +kernel)
    · have double := plain.notDouble
      rw [dots] at double
      exact absurd double (by decide +kernel)
  · rintro ⟨noBackslash, notDot, notDots⟩
    refine ⟨fun x mem => ?_, ?_, ?_⟩
    · obtain ⟨c, within, written⟩ := mem_percentEncode.1 mem
      rcases mem_encodeSegment written with ⟨rfl, backslash | plain⟩ | plain
      · exact absurd (backslash ▸ within) noBackslash
      · exact plain
      · exact plain
    · -- a dot spelling decodes to `.`, and the encoding decodes to the text
      rw [String.ofList_toList]
      cases single : isSingleDot (percentEncode .segment t)
      · rfl
      · exact absurd (back.symm.trans (percentDecode_of_isSingleDot single)) notDot
    · rw [String.ofList_toList]
      cases double : isDoubleDot (percentEncode .segment t)
      · rfl
      · exact absurd (back.symm.trans (percentDecode_of_isDoubleDot double)) notDots

/-! ### Reading plain segments -/

theorem encodeChar_path {c : Char} (plain : pathChar c = true) :
    (encodeChar .path c).toList = [c] := by
  simp only [pathChar, Bool.and_eq_true, decide_eq_true_eq, bne_iff_ne, ne_eq,
    Bool.not_eq_true'] at plain
  obtain ⟨⟨⟨⟨visible, ascii⟩, _⟩, _⟩, unescaped⟩ := plain
  have byte : (UInt8.ofNat c.toNat).toNat = c.toNat := byte_toNat (by omega)
  unfold encodeChar
  dsimp only
  rw [octets_singleton, utf8EncodeChar_ascii (by omega), if_neg, String.toList_singleton]
  simp only [List.any_cons, List.any_nil, Bool.or_false, EncodeSet.escapes, Bool.or_eq_true,
    decide_eq_true_eq, UInt8.lt_iff_toNat_lt, UInt8.le_iff_toNat_le, byte, Char.ofNat_toNat,
    unescaped]
  show ¬ (c.toNat < 32 ∨ 127 ≤ c.toNat)
  omega

theorem pathChar_not_delimiter {c : Char} (plain : pathChar c = true) :
    (c == '/' || true && c == '\\') = false ∧ (c == '?' || c == '#') = false := by
  simp only [pathChar, Bool.and_eq_true, decide_eq_true_eq, bne_iff_ne, ne_eq,
    Bool.not_eq_true'] at plain
  obtain ⟨⟨⟨_, notSlash⟩, notBackslash⟩, unescaped⟩ := plain
  have notQuery : c ≠ '?' := by rintro rfl; exact absurd unescaped (by decide)
  have notFragment : c ≠ '#' := by rintro rfl; exact absurd unescaped (by decide)
  simp [notSlash, notBackslash, notQuery, notFragment]

theorem encodeSegment_no_delimiter (t : String) :
    ∀ c ∈ (percentEncode .segment t).toList, c ≠ '/' ∧ c ≠ '?' ∧ c ≠ '#' := by
  intro x mem
  obtain ⟨c, _, written⟩ := mem_percentEncode.1 mem
  have plainOrBackslash : x = '\\' ∨ pathChar x = true := by
    rcases mem_encodeSegment written with ⟨rfl, backslash | plain⟩ | plain
    · exact .inl backslash
    · exact .inr plain
    · exact .inr plain
  rcases plainOrBackslash with rfl | plain
  · decide
  · obtain ⟨notSlash, notDelimiter⟩ := pathChar_not_delimiter plain
    simp only [Bool.or_eq_false_iff, beq_eq_false_iff_ne, Bool.true_and] at notSlash notDelimiter
    exact ⟨notSlash.1, notDelimiter.1, notDelimiter.2⟩

theorem closeSegment_plain {q : List Char} {start : Nat} {slash : Bool}
    (plain : PlainSegment ((if slash then q.dropLast else q).drop start)) :
    closeSegment false q start slash = (q, false) := by
  unfold closeSegment
  rw [if_neg (by simp [plain.notDouble]), if_neg (by simp [plain.notSingle])]
  rfl

theorem readSegments_chars {cs : List Char} (plain : ∀ c ∈ cs, pathChar c = true)
    (q rest : List Char) (start : Nat) (drive : Bool) :
    readSegments true false q start drive (cs ++ rest) =
      readSegments true false (q ++ cs) start drive rest := by
  induction cs generalizing q with
  | nil => rw [List.nil_append, List.append_nil]
  | cons c cs ih =>
    have kept := plain c List.mem_cons_self
    obtain ⟨notSlash, notDelimiter⟩ := pathChar_not_delimiter kept
    rw [List.cons_append, readSegments, if_neg (by rw [notSlash]; exact Bool.false_ne_true),
      if_neg (by rw [notDelimiter]; exact Bool.false_ne_true)]
    simp only [Bool.false_and, Bool.false_eq_true, ↓reduceIte, encodeChar_path kept]
    rw [ih (fun x mem => plain x (List.mem_cons_of_mem _ mem)), List.append_assoc,
      List.singleton_append]

theorem readSegments_segments {segs : List (List Char)} (nonempty : segs ≠ [])
    (plain : ∀ seg ∈ segs, PlainSegment seg) (q : List Char) (drive : Bool) :
    readSegments true false q q.length drive (['/'].intercalate segs) =
      (q ++ ['/'].intercalate segs, drive, []) := by
  induction segs generalizing q with
  | nil => exact absurd rfl nonempty
  | cons seg more ih =>
    have first := plain seg List.mem_cons_self
    cases more with
    | nil =>
      have read := readSegments_chars first.chars q [] q.length drive
      rw [List.append_nil] at read
      rw [List.intercalate_singleton, read, readSegments,
        closeSegment_plain (by rw [if_neg Bool.false_ne_true, List.drop_left]; exact first)]
      simp
    | cons next more =>
      rw [List.intercalate_cons_cons, List.append_assoc, readSegments_chars first.chars,
        List.singleton_append, readSegments, if_pos (by decide),
        closeSegment_plain (by rw [if_pos rfl, List.dropLast_concat, List.drop_left]; exact first)]
      dsimp only
      rw [Bool.or_false, ih (List.cons_ne_nil _ _) (fun x mem => plain x (List.mem_cons_of_mem _ mem))]
      simp

theorem splitOnChar_last {x : Char} {l : List Char} (other : ∀ c ∈ l, c ≠ x) :
    splitOnChar x l = [l] := by
  induction l with
  | nil => rfl
  | cons c l ih =>
    have notX := other c List.mem_cons_self
    rw [splitOnChar, ih (fun d mem => other d (List.mem_cons_of_mem _ mem))]
    simp [notX]

theorem splitOnChar_piece {x : Char} {l : List Char} (other : ∀ c ∈ l, c ≠ x) (rest : List Char) :
    splitOnChar x (l ++ x :: rest) = l :: splitOnChar x rest := by
  induction l with
  | nil => simp [splitOnChar]
  | cons c l ih =>
    have notX := other c List.mem_cons_self
    rw [List.cons_append, splitOnChar, ih (fun d mem => other d (List.mem_cons_of_mem _ mem))]
    simp [notX]

theorem segmentsOf_textOf {qs : List String} (nonempty : qs ≠ [])
    (noSlash : ∀ q ∈ qs, '/' ∉ q.toList) : segmentsOf (textOf qs) = qs := by
  obtain ⟨q, rest, rfl⟩ := List.exists_cons_of_ne_nil nonempty
  have split : ∀ (q : String) (rest : List String), (∀ p ∈ q :: rest, '/' ∉ p.toList) →
      splitOnChar '/' (q.toList ++ textOf rest) = (q :: rest).map String.toList := by
    intro q rest
    induction rest generalizing q with
    | nil =>
      intro noSlash
      rw [textOf, List.map_nil, List.flatten_nil, List.append_nil,
        splitOnChar_last (fun c mem same => noSlash q List.mem_cons_self (by rw [← same]; exact mem))]
      rfl
    | cons r rest ih =>
      intro noSlash
      have plainQ : ∀ c ∈ q.toList, c ≠ '/' := fun c mem same =>
        noSlash q List.mem_cons_self (by rw [← same]; exact mem)
      rw [textOf, List.map_cons, List.flatten_cons, ← textOf, List.cons_append,
        splitOnChar_piece plainQ, ih r (fun p mem => noSlash p (List.mem_cons_of_mem _ mem))]
      rfl
  rw [textOf, List.map_cons, List.flatten_cons, ← textOf, List.cons_append, segmentsOf,
    split q rest noSlash, List.map_map]
  simp

theorem textOf_cons (q : String) (qs : List String) :
    textOf (q :: qs) = '/' :: ['/'].intercalate ((q :: qs).map String.toList) := by
  induction qs generalizing q with
  | nil => simp [textOf]
  | cons r qs ih =>
    rw [textOf, List.map_cons, List.flatten_cons, ← textOf, ih]
    simp [List.intercalate_cons_cons]

theorem segmentsOf_dir_append {ps : List String} (dir : ps.getLast? = some "")
    (wellFormed : ∀ p ∈ ps, '/' ∉ p.toList) {first : List Char} {segs : List (List Char)}
    (plain : ∀ seg ∈ first :: segs, PlainSegment seg) :
    segmentsOf (textOf ps ++ ['/'].intercalate (first :: segs)) =
      ps.dropLast ++ (first :: segs).map String.ofList := by
  obtain ⟨front, rfl⟩ := List.getLast?_eq_some_iff.1 dir
  have written : textOf (front ++ [""]) ++ ['/'].intercalate (first :: segs) =
      textOf (front ++ (first :: segs).map String.ofList) := by
    have append : ∀ a b : List String, textOf (a ++ b) = textOf a ++ textOf b := by
      simp [textOf]
    rw [textOf_concat, List.map_cons, append, textOf_cons, List.map_cons, List.map_map]
    simp [Function.comp_def]
  rw [written, segmentsOf_textOf (by simp), List.dropLast_concat]
  intro q mem
  rcases List.mem_append.1 mem with inFront | inSegs
  · exact wellFormed q (List.mem_append_left _ inFront)
  · obtain ⟨seg, within, rfl⟩ := List.mem_map.1 inSegs
    intro slash
    have read := (plain seg within).chars '/' (by simpa using slash)
    exact absurd read (by decide)

/-! ### Resolving against the base -/

theorem cleanInput_visible {l : List Char} (visible : ∀ c ∈ l, 0x20 < c.toNat) :
    cleanInput (String.ofList l) = l := by
  have keep : ∀ m : List Char, (∀ c ∈ m, 0x20 < c.toNat) → m.dropWhile (·.toNat ≤ 0x20) = m := by
    intro m visible
    cases m with
    | nil => rfl
    | cons c m =>
      have first := visible c List.mem_cons_self
      rw [List.dropWhile_cons_of_neg (by simp; omega)]
  unfold cleanInput
  rw [String.toList_ofList, keep l visible,
    keep l.reverse (fun c mem => visible c (List.mem_reverse.1 mem))]
  dsimp only
  rw [List.reverse_reverse, List.filter_eq_self.2]
  intro c mem
  have shown := visible c mem
  have notTab : c ≠ '\t' := by rintro rfl; exact absurd shown (by decide)
  have notLine : c ≠ '\n' := by rintro rfl; exact absurd shown (by decide)
  have notReturn : c ≠ '\r' := by rintro rfl; exact absurd shown (by decide)
  simp [notTab, notLine, notReturn]

theorem intercalate_visible {segs : List (List Char)} (plain : ∀ seg ∈ segs, PlainSegment seg) :
    ∀ c ∈ ['/'].intercalate segs, 0x20 < c.toNat := by
  induction segs with
  | nil => simp
  | cons seg more ih =>
    have visible : ∀ c ∈ seg, 0x20 < c.toNat := fun c mem => by
      have read := (plain seg List.mem_cons_self).chars c mem
      simp only [pathChar, Bool.and_eq_true, decide_eq_true_eq] at read
      exact read.1.1.1.1
    have rest := ih (fun s mem => plain s (List.mem_cons_of_mem _ mem))
    cases more with
    | nil => rwa [List.intercalate_singleton]
    | cons next more =>
      rw [List.intercalate_cons_cons]
      intro c mem
      simp only [List.mem_append, List.mem_singleton] at mem
      rcases mem with (inSeg | rfl) | inRest
      · exact visible c inSeg
      · decide
      · exact rest c inRest

theorem intercalate_cons_eq (first : List Char) (segs : List (List Char)) :
    ∃ tail, ['/'].intercalate (first :: segs) = first ++ tail ∧
      (tail = [] ∨ tail.head? = some '/') := by
  cases segs with
  | nil => exact ⟨[], by simp, .inl rfl⟩
  | cons next more => exact ⟨_, by rw [List.intercalate_cons_cons, List.append_assoc], .inr rfl⟩

theorem schemeOf_go_none {l rest : List Char} (noColon : ':' ∉ l)
    (stops : rest = [] ∨ rest.head? = some '/') (acc : List Char) :
    schemeOf.go acc (l ++ rest) = none := by
  induction l generalizing acc with
  | nil =>
    rcases stops with rfl | first
    · rfl
    · obtain ⟨r, rfl⟩ : ∃ r, rest = '/' :: r := by
        cases rest with
        | nil => cases first
        | cons c r => exact ⟨r, by rw [Option.some.inj first]⟩
      rw [List.nil_append, schemeOf.go, if_neg (by decide)]
      decide
  | cons c l ih =>
    have notColon : c ≠ ':' := fun same => noColon (same ▸ List.mem_cons_self)
    rw [List.cons_append, schemeOf.go]
    · split
      · exact ih (fun mem => noColon (List.mem_cons_of_mem _ mem)) _
      · rfl
    · exact notColon

theorem schemeOf_plain {first : List Char} (leading : first ≠ []) (noColon : ':' ∉ first)
    (segs : List (List Char)) : schemeOf (['/'].intercalate (first :: segs)) = none := by
  obtain ⟨tail, text, stops⟩ := intercalate_cons_eq first segs
  obtain ⟨c, rest, rfl⟩ := List.exists_cons_of_ne_nil leading
  rw [text, List.cons_append, schemeOf]
  split
  · exact schemeOf_go_none (fun mem => noColon (List.mem_cons_of_mem _ mem)) stops _
  · rfl

theorem join_plainSegments {base : Url} {ps : List String} {first : List Char}
    {segs : List (List Char)} (special : isSpecial base.scheme = true)
    (notFile : base.scheme ≠ "file") (based : base.path = .segments ps)
    (dir : ps.getLast? = some "") (wellFormed : ∀ p ∈ ps, '/' ∉ p.toList)
    (leading : first ≠ []) (noColon : ':' ∉ first)
    (plain : ∀ seg ∈ first :: segs, PlainSegment seg) :
    base.join (String.ofList (['/'].intercalate (first :: segs))) =
      .ok { base with
        path := .segments (ps.dropLast ++ (first :: segs).map String.ofList)
        query := none
        fragment := none } := by
  have cleaned := cleanInput_visible (intercalate_visible plain)
  have noScheme := schemeOf_plain leading noColon segs
  rw [join_of_relative notFile based (by rw [cleaned]; exact noScheme), cleaned]
  obtain ⟨tail, text, _⟩ := intercalate_cons_eq first segs
  obtain ⟨c, rest, rfl⟩ := List.exists_cons_of_ne_nil leading
  have visible := (plain _ List.mem_cons_self).chars c List.mem_cons_self
  obtain ⟨notSlash, notDelimiter⟩ := pathChar_not_delimiter visible
  obtain ⟨r, started⟩ : ∃ r, ['/'].intercalate ((c :: rest) :: segs) = c :: r :=
    ⟨rest ++ tail, by rw [text, List.cons_append]⟩
  -- the reference starts with a plain character, so it is read onto the base's directory
  rw [started]
  unfold relativeFrom
  dsimp only
  rw [if_neg (by simpa using notSlash), if_neg (by simp at notDelimiter; simp [notDelimiter.1]),
    if_neg (by simp at notDelimiter; simp [notDelimiter.2])]
  simp only [based, popSegment_of_dir dir]
  obtain ⟨below, rooted⟩ := textOf_rooted ps (by rintro rfl; cases dir)
  rw [rooted, List.isEmpty_cons, if_neg Bool.false_ne_true, ← rooted, ← started]
  unfold withPath readPath
  rw [special, show (base.scheme == "file") = false by simpa using notFile]
  dsimp only
  rw [readSegments_segments (List.cons_ne_nil _ _) plain, if_neg Bool.false_ne_true]
  dsimp only
  rw [segmentsOf_dir_append dir wellFormed plain]
  rfl

theorem trimStartChar_of_head {c : Char} {r : List Char} (other : c ≠ '/') :
    Text.trimStartChar (String.ofList (c :: r)) '/' = String.ofList (c :: r) := by
  rw [Text.trimStartChar, String.toList_ofList, List.dropWhile_cons_of_neg (by simpa using other)]

end CloudApi.Web

namespace CloudApi

open Web

/-- An encoded text decodes back and holds no delimiter, and between plain segments it is read
as one segment when it holds no backslash and is neither `.` nor `..`. -/
theorem caller_text_stays_one_segment (t : String) {base : Url} {ps : List String}
    {first : List Char} {pre post : List (List Char)} (special : isSpecial base.scheme = true)
    (notFile : base.scheme ≠ "file") (based : base.path = .segments ps)
    (dir : ps.getLast? = some "") (wellFormed : ∀ p ∈ ps, '/' ∉ p.toList) (leading : first ≠ [])
    (noColon : ':' ∉ first) (around : ∀ seg ∈ first :: pre ++ post, PlainSegment seg) :
    percentDecode (percentEncode .segment t) = t ∧
      (∀ c ∈ (percentEncode .segment t).toList, c ≠ '/' ∧ c ≠ '?' ∧ c ≠ '#') ∧
      ('\\' ∉ t.toList → t ≠ "." → t ≠ ".." →
        requestUrl base (String.ofList
            (['/'].intercalate (first :: pre ++ (percentEncode .segment t).toList :: post))) =
          .ok { base with
            path := .segments (ps.dropLast ++
              (first :: pre ++ (percentEncode .segment t).toList :: post).map String.ofList)
            query := none
            fragment := none }) := by
  refine ⟨percentDecode_encodeSegment t, encodeSegment_no_delimiter t, ?_⟩
  intro noBackslash notDot notDots
  rw [List.cons_append]
  have encoded := (plainSegment_encode_iff t).2 ⟨noBackslash, notDot, notDots⟩
  have plain : ∀ seg ∈ first :: (pre ++ (percentEncode .segment t).toList :: post),
      PlainSegment seg := by
    intro seg mem
    simp only [List.mem_cons, List.mem_append] at mem
    rcases mem with rfl | inPre | rfl | inPost
    · exact around _ List.mem_cons_self
    · exact around seg (by simp [inPre])
    · exact encoded
    · exact around seg (by simp [inPost])
  obtain ⟨tail, text, _⟩ := intercalate_cons_eq first (pre ++ (percentEncode .segment t).toList :: post)
  obtain ⟨c, rest, rfl⟩ := List.exists_cons_of_ne_nil leading
  have notSlash : c ≠ '/' := by
    have read := (pathChar_not_delimiter ((plain _ List.mem_cons_self).chars c List.mem_cons_self)).1
    simp only [Bool.or_eq_false_iff, beq_eq_false_iff_ne] at read
    exact read.1
  rw [requestUrl, text, List.cons_append, trimStartChar_of_head notSlash, ← List.cons_append,
    ← text, join_plainSegments special notFile based dir wellFormed leading noColon plain]

theorem regions_plain : PlainSegment "regions".toList :=
  ⟨List.all_eq_true.1 (by decide +kernel), by decide +kernel, by decide +kernel⟩

theorem region_id_stays_one_segment :
    let base : Url :=
      { scheme := "https", host := some (.domain "api.linode.com"), path := .segments ["v4", ""] }
    PlainSegment "regions".toList ∧
      requestUrl base (String.ofList
          (['/'].intercalate ["regions".toList, (percentEncode .segment "us-east").toList])) =
        .ok { base with
          path := .segments ["v4", "regions", String.ofList (percentEncode .segment "us-east").toList] } := by
  intro base
  exact ⟨regions_plain, (@caller_text_stays_one_segment "us-east" base ["v4", ""]
    "regions".toList [] [] (by decide) (by decide) rfl rfl (by decide) (by decide +kernel)
    (by decide +kernel)
    (by simpa using regions_plain)).2.2 (by decide +kernel) (by decide) (by decide)⟩

theorem backslash_splits_region_id :
    let base : Url :=
      { scheme := "https", host := some (.domain "api.linode.com"), path := .segments ["v4", ""] }
    percentEncode .segment "a\\b" = "a\\b" ∧
      (requestUrl base ("regions/" ++ percentEncode .segment "a\\b")).toOption.map Url.href =
        some "https://api.linode.com/v4/regions/a/b" ∧
      (requestUrl base ("regions/" ++ percentEncode .segment "..")).toOption.map Url.href =
        some "https://api.linode.com/v4/" := by
  decide +kernel

end CloudApi
