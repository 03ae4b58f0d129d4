import CloudApi.Proofs.Utf8RoundTrip
import CloudApi.Json.Parse
import CloudApi.Json.Print

/-!
# Scanning printed literals

A string literal as `Json.quote` writes it scans back to its string (`scanString_quote`), and
printed integers scan back when the next byte cannot continue a number (`NumberEnd`).
-/

namespace CloudApi

namespace Json

/-- The bytes of a text from offset `i` on. -/
def ahead (bytes : ByteArray) (i : Nat) : List UInt8 := bytes.data.toList.drop i

/-- The UTF-8 bytes of a text, as a list. -/
def bytesOf (s : String) : List UInt8 := s.toList.flatMap String.utf8EncodeChar

theorem bytesOf_append (s t : String) : bytesOf (s ++ t) = bytesOf s ++ bytesOf t := by
  simp [bytesOf, String.toList_append]

theorem toUTF8_data (s : String) : s.toUTF8.data.toList = bytesOf s := by
  obtain ⟨l, rfl⟩ := String.exists_eq_ofList s
  rw [String.toUTF8_eq_toByteArray, String.toByteArray_ofList, bytesOf, String.toList_ofList,
    List.utf8Encode, List.data_toByteArray, List.toList_toArray]

theorem getElem?_ahead (bytes : ByteArray) (i : Nat) : bytes[i]? = (ahead bytes i).head? := by
  rw [ahead, List.head?_drop, Array.getElem?_toList]
  simp only [getElem?_def, ByteArray.getElem_eq_getElem_data]
  rfl

theorem getElem_ahead {bytes : ByteArray} {i : Nat} {b : UInt8} {r : List UInt8}
    (h : ahead bytes i = b :: r) : ∃ inside : i < bytes.size, bytes[i] = b := by
  have some : bytes[i]? = some b := by rw [getElem?_ahead, h]; rfl
  rw [getElem?_def] at some
  split at some
  · rename_i inside
    exact ⟨inside, Option.some.inj some⟩
  · cases some

theorem getElem!_ahead {bytes : ByteArray} {i : Nat} {b : UInt8} {r : List UInt8}
    (h : ahead bytes i = b :: r) : bytes[i]! = b := by
  obtain ⟨inside, get⟩ := getElem_ahead h
  rw [getElem!_pos bytes i inside, get]

theorem ahead_append {bytes : ByteArray} {i : Nat} {l r : List UInt8}
    (h : ahead bytes i = l ++ r) : ahead bytes (i + l.length) = r := by
  rw [ahead, ← List.drop_drop]
  rw [ahead] at h
  rw [h, List.drop_left]

theorem ahead_succ {bytes : ByteArray} {i : Nat} {b : UInt8} {r : List UInt8}
    (h : ahead bytes i = b :: r) : ahead bytes (i + 1) = r :=
  ahead_append (l := [b]) h

theorem size_of_ahead {bytes : ByteArray} {i : Nat} (h : ahead bytes i = []) : bytes.size ≤ i := by
  rw [ahead, List.drop_eq_nil_iff, Array.length_toList] at h
  exact h

/-- A byte a string literal holds as itself. -/
def Plain (b : UInt8) : Prop := b ≠ 0x22 ∧ b ≠ 0x5C ∧ 0x20 ≤ b

theorem stringFrom_plain {bytes : ByteArray} :
    ∀ (l : List UInt8) (i : Nat) (acc : ByteArray) (r : List UInt8),
      (∀ b ∈ l, Plain b) → ahead bytes i = l ++ r →
      stringFrom bytes i acc = stringFrom bytes (i + l.length) ⟨⟨acc.data.toList ++ l⟩⟩
  | [], i, acc, r, _, _ => by simp
  | b :: l, i, acc, r, plain, text => by
    obtain ⟨notQuote, notBackslash, visible⟩ := plain b (List.mem_cons_self ..)
    obtain ⟨inside, get⟩ := getElem_ahead text
    rw [stringFrom, dif_pos inside]
    simp only [get, if_neg notQuote, if_neg notBackslash, if_neg (UInt8.not_lt.2 visible)]
    rw [stringFrom_plain l (i + 1) (acc.push b) r (fun x mem => plain x (List.mem_cons_of_mem _ mem))
      (ahead_succ text)]
    simp [ByteArray.data_push, Nat.add_assoc, Nat.add_comm 1]

theorem plain_of_toNat {b : UInt8} (h : 0x20 ≤ b.toNat) (notQuote : b.toNat ≠ 0x22)
    (notBackslash : b.toNat ≠ 0x5C) : Plain b := by
  refine ⟨fun same => notQuote (by rw [same]; rfl), fun same => notBackslash (by rw [same]; rfl), ?_⟩
  rw [UInt8.le_iff_toNat_le]
  exact h

theorem utf8EncodeChar_bytes (c : Char) :
    ∀ b ∈ String.utf8EncodeChar c, b.toNat = c.toNat ∨ 0x80 ≤ b.toNat := by
  have bound : c.val.toNat < 0x110000 := by
    have valid : c.val.toNat < 0xD800 ∨ (0xDFFF < c.val.toNat ∧ c.val.toNat < 0x110000) := c.valid
    omega
  have own : c.toNat = c.val.toNat := rfl
  rw [own]
  unfold String.utf8EncodeChar
  generalize c.val.toNat = v at bound
  have high : ∀ n, 0x80 ≤ n → n < 256 → (UInt8.ofNat n).toNat = v ∨ 0x80 ≤ (UInt8.ofNat n).toNat :=
    fun n low high => .inr (by rw [byte_toNat high]; exact low)
  dsimp only
  split
  · intro b mem
    rw [List.mem_singleton] at mem
    subst mem
    exact .inl (byte_toNat (by omega))
  split
  · simp only [List.mem_cons, List.not_mem_nil, or_false, forall_eq_or_imp, forall_eq]
    exact ⟨high _ (by omega) (by omega), high _ (by omega) (by omega)⟩
  split
  · simp only [List.mem_cons, List.not_mem_nil, or_false, forall_eq_or_imp, forall_eq]
    exact ⟨high _ (by omega) (by omega), high _ (by omega) (by omega), high _ (by omega) (by omega)⟩
  · simp only [List.mem_cons, List.not_mem_nil, or_false, forall_eq_or_imp, forall_eq]
    exact ⟨high _ (by omega) (by omega), high _ (by omega) (by omega), high _ (by omega) (by omega),
      high _ (by omega) (by omega)⟩

theorem utf8EncodeChar_plain {c : Char} (visible : 0x20 ≤ c.toNat) (notQuote : c ≠ '"')
    (notBackslash : c ≠ '\\') : ∀ b ∈ String.utf8EncodeChar c, Plain b := by
  have quote : c.toNat ≠ 0x22 := fun same => notQuote (Char.toNat_inj.mp same)
  have backslash : c.toNat ≠ 0x5C := fun same => notBackslash (Char.toNat_inj.mp same)
  intro b mem
  rcases utf8EncodeChar_bytes c b mem with same | high
  · exact plain_of_toNat (by omega) (by omega) (by omega)
  · exact plain_of_toNat (by omega) (by omega) (by omega)

theorem append_bytes (acc : ByteArray) (l : List UInt8) :
    acc ++ ⟨⟨l⟩⟩ = ⟨⟨acc.data.toList ++ l⟩⟩ := by
  obtain ⟨⟨data⟩⟩ := acc
  rfl

theorem append_data (acc chunk : ByteArray) :
    acc ++ chunk = ⟨⟨acc.data.toList ++ chunk.data.toList⟩⟩ := by
  obtain ⟨⟨data⟩⟩ := chunk
  exact append_bytes acc data

theorem size_of_ahead_length {bytes : ByteArray} {i : Nat} {l r : List UInt8}
    (nonempty : l ≠ []) (h : ahead bytes i = l ++ r) : i + l.length ≤ bytes.size := by
  have long := congrArg List.length h
  rw [ahead, List.length_drop, Array.length_toList, List.length_append] at long
  have size : bytes.size = bytes.data.size := rfl
  have positive := List.length_pos_iff.2 nonempty
  omega

/-- The byte of a lower-case hex digit. -/
def hexByte (m : Nat) : UInt8 := if m < 10 then UInt8.ofNat (48 + m) else UInt8.ofNat (87 + m)

theorem hexDigit_bytes : ∀ m < 16,
    String.utf8EncodeChar ("0123456789abcdef".toList.getD m '0') = [hexByte m] := by
  decide

theorem hexValue_hexByte : ∀ m < 16, hexValue (hexByte m) = some m := by
  decide

theorem bytesOf_hex4 (n : Nat) :
    bytesOf (hex4 n) = [hexByte (n / 4096 % 16), hexByte (n / 256 % 16), hexByte (n / 16 % 16),
      hexByte (n % 16)] := by
  simp only [hex4, bytesOf, String.toList_ofList, List.flatMap_cons, List.flatMap_nil,
    List.append_nil, Nat.div_one]
  rw [hexDigit_bytes _ (Nat.mod_lt _ (by decide)), hexDigit_bytes _ (Nat.mod_lt _ (by decide)),
    hexDigit_bytes _ (Nat.mod_lt _ (by decide)), hexDigit_bytes _ (Nat.mod_lt _ (by decide))]
  rfl

theorem hexEscape_hex4 {bytes : ByteArray} {k n : Nat} {r : List UInt8} (small : n < 65536)
    (text : ahead bytes k = bytesOf (hex4 n) ++ r) : hexEscape bytes k = .ok (n, k + 4) := by
  rw [bytesOf_hex4] at text
  have fits := size_of_ahead_length (List.cons_ne_nil _ _) text
  simp only [List.length_cons, List.length_nil] at fits
  have first := getElem!_ahead text
  have second := getElem!_ahead (ahead_succ text)
  have third := getElem!_ahead (ahead_succ (ahead_succ text))
  have fourth := getElem!_ahead (ahead_succ (ahead_succ (ahead_succ text)))
  unfold hexEscape
  rw [if_pos fits]
  simp only [first, second, third, fourth, List.map_cons, List.map_nil,
    hexValue_hexByte _ (Nat.mod_lt _ (by decide : 0 < 16))]
  congr 2
  omega

theorem stringFrom_letter {bytes : ByteArray} {i : Nat} {acc : ByteArray} {s : String}
    {x y : UInt8} {r : List UInt8} (written : bytesOf s = [0x5C, x])
    (text : ahead bytes i = bytesOf s ++ r)
    (esc : ahead bytes (i + 1) = x :: r → escape bytes (i + 1) = .ok (⟨⟨[y]⟩⟩, i + 2)) :
    stringFrom bytes i acc = stringFrom bytes (i + (bytesOf s).length) ⟨⟨acc.data.toList ++ [y]⟩⟩ := by
  rw [written] at text ⊢
  obtain ⟨inside, get⟩ := getElem_ahead text
  rw [stringFrom, dif_pos inside]
  simp only [get]
  rw [if_neg (by decide), if_pos trivial, esc (ahead_succ text)]
  dsimp only
  rw [append_bytes, Nat.max_eq_left (by omega)]
  rfl

theorem unicodeEscape_hex4 {bytes : ByteArray} {k n : Nat} {r : List UInt8} (small : n < 0xD800)
    (text : ahead bytes k = bytesOf (hex4 n) ++ r) :
    unicodeEscape bytes k = .ok (codePointBytes n, k + 4) := by
  unfold unicodeEscape
  rw [hexEscape_hex4 (by omega) text]
  simp only [bind, Except.bind, pure, Except.pure]
  rw [if_neg (by omega), if_pos (.inl small)]

theorem codePointBytes_data (c : Char) : (codePointBytes c.toNat).data.toList = String.utf8EncodeChar c := by
  rw [codePointBytes, Char.ofNat_toNat, toUTF8_data]
  simp [bytesOf]

theorem stringFrom_control {bytes : ByteArray} {i : Nat} {acc : ByteArray} {c : Char}
    {r : List UInt8} (control : c.toNat < 0x20)
    (text : ahead bytes i = bytesOf ("\\u" ++ hex4 c.toNat) ++ r) :
    stringFrom bytes i acc = stringFrom bytes (i + (bytesOf ("\\u" ++ hex4 c.toNat)).length)
      ⟨⟨acc.data.toList ++ String.utf8EncodeChar c⟩⟩ := by
  have opening : bytesOf "\\u" = [0x5C, 0x75] := rfl
  rw [bytesOf_append, opening, List.append_assoc, List.cons_append, List.singleton_append] at text
  obtain ⟨inside, get⟩ := getElem_ahead text
  have letter := ahead_succ text
  rw [stringFrom, dif_pos inside]
  simp only [get]
  rw [if_neg (by decide), if_pos trivial]
  have esc : escape bytes (i + 1) = .ok (codePointBytes c.toNat, i + 1 + 1 + 4) := by
    unfold escape
    rw [getElem?_ahead, letter]
    exact unicodeEscape_hex4 (by omega) (ahead_succ letter)
  rw [esc]
  dsimp only
  rw [append_data, codePointBytes_data, bytesOf_append, opening, bytesOf_hex4, Nat.max_eq_left (by omega)]
  rfl

theorem escapeChar_cases (c : Char) :
    (∃ x y, bytesOf (escapeChar c) = [0x5C, x] ∧ String.utf8EncodeChar c = [y] ∧
      ∀ (bytes : ByteArray) k r, ahead bytes k = x :: r → escape bytes k = .ok (⟨⟨[y]⟩⟩, k + 1)) ∨
    (c.toNat < 0x20 ∧ escapeChar c = "\\u" ++ hex4 c.toNat) ∨
    (0x20 ≤ c.toNat ∧ c ≠ '"' ∧ c ≠ '\\' ∧ escapeChar c = c.toString) := by
  unfold escapeChar
  split
  -- the seven characters with a letter of their own
  case h_1 | h_2 | h_3 | h_4 | h_5 | h_6 | h_7 =>
    exact .inl ⟨_, _, rfl, rfl, fun bytes k r text => by unfold escape; rw [getElem?_ahead, text]; rfl⟩
  case h_8 quote backslash newline return_ tab backspace feed =>
    split
    · rename_i control
      exact .inr (.inl ⟨control, rfl⟩)
    · rename_i visible
      exact .inr (.inr ⟨Nat.le_of_not_lt visible, quote, backslash, rfl⟩)

theorem stringFrom_char {bytes : ByteArray} {i : Nat} {acc : ByteArray} (c : Char) {r : List UInt8}
    (text : ahead bytes i = bytesOf (escapeChar c) ++ r) :
    stringFrom bytes i acc = stringFrom bytes (i + (bytesOf (escapeChar c)).length)
      ⟨⟨acc.data.toList ++ String.utf8EncodeChar c⟩⟩ := by
  rcases escapeChar_cases c with ⟨x, y, written, encoded, esc⟩ | ⟨control, written⟩ |
    ⟨visible, notQuote, notBackslash, written⟩
  · rw [encoded]
    exact stringFrom_letter written text (esc bytes (i + 1) r)
  · rw [written] at text ⊢
    exact stringFrom_control control text
  · have own : bytesOf c.toString = String.utf8EncodeChar c := by simp [bytesOf]
    rw [written, own] at text ⊢
    exact stringFrom_plain _ _ _ _ (utf8EncodeChar_plain visible notQuote notBackslash) text

/-- The bytes of a text's characters, each as a string literal writes it. -/
def escapedBytes (cs : List Char) : List UInt8 := cs.flatMap fun c => bytesOf (escapeChar c)

theorem stringFrom_escaped {bytes : ByteArray} {r : List UInt8} :
    ∀ (cs pre : List Char) (i : Nat) (acc : ByteArray),
      acc.data.toList = pre.flatMap String.utf8EncodeChar →
      ahead bytes i = escapedBytes cs ++ 0x22 :: r →
      stringFrom bytes i acc = .ok (String.ofList (pre ++ cs), i + (escapedBytes cs).length + 1)
  | [], pre, i, acc, read, text => by
    obtain ⟨inside, get⟩ := getElem_ahead text
    rw [stringFrom, dif_pos inside]
    simp only [get]
    rw [if_pos trivial, Utf8.decode?_encoded read]
    simp [escapedBytes]
  | c :: cs, pre, i, acc, read, text => by
    rw [escapedBytes, List.flatMap_cons, List.append_assoc] at text
    rw [stringFrom_char c text, stringFrom_escaped cs (pre ++ [c]) _ _ (by simp [read])
      (ahead_append text)]
    simp [escapedBytes, Nat.add_assoc]

theorem bytesOf_foldl_escape (l : List Char) :
    ∀ init : String, bytesOf (l.foldl (fun acc c => acc ++ escapeChar c) init) =
      bytesOf init ++ escapedBytes l := by
  induction l with
  | nil => intro init; simp [escapedBytes]
  | cons c l ih =>
    intro init
    rw [List.foldl_cons, ih, bytesOf_append, escapedBytes, escapedBytes, List.flatMap_cons,
      List.append_assoc]

theorem bytesOf_quote (s : String) :
    bytesOf (quote s) = 0x22 :: escapedBytes s.toList ++ [0x22] := by
  rw [quote, String.foldl_eq_foldl_toList, bytesOf_append, bytesOf_foldl_escape]
  rfl

theorem scanString_quote {bytes : ByteArray} {i : Nat} {s : String} {r : List UInt8}
    (text : ahead bytes i = escapedBytes s.toList ++ 0x22 :: r) :
    scanString bytes i = .ok (s, i + (escapedBytes s.toList).length + 1) := by
  rw [scanString, stringFrom_escaped s.toList [] i _ rfl text, List.nil_append, String.ofList_toList]

/-! ### Number literals -/

/-- What may follow a number literal: nothing that would continue it. -/
def NumberEnd (r : List UInt8) : Prop :=
  ∀ b ∈ r.head?, isDigit b = false ∧ b ≠ 0x2E ∧ b ≠ 0x65 ∧ b ≠ 0x45

theorem digit_range {c : Char} (digit : c.isDigit = true) : 48 ≤ c.toNat ∧ c.toNat ≤ 57 := by
  simp only [Char.isDigit, Bool.and_eq_true, decide_eq_true_eq, UInt32.le_iff_toNat_le] at digit
  exact digit

theorem digit_bytes {c : Char} (digit : c.isDigit = true) :
    String.utf8EncodeChar c = [UInt8.ofNat c.toNat] := by
  have range := digit_range digit
  unfold String.utf8EncodeChar
  rw [if_pos (by show c.toNat ≤ 127; omega)]
  rfl

theorem isDigit_byte {c : Char} (digit : c.isDigit = true) : isDigit (UInt8.ofNat c.toNat) = true := by
  have range := digit_range digit
  have b := byte_toNat (by omega : c.toNat < 256)
  simp only [isDigit, Bool.and_eq_true, decide_eq_true_eq, UInt8.le_iff_toNat_le, b]
  exact ⟨by show 48 ≤ c.toNat; omega, by show c.toNat ≤ 57; omega⟩

theorem digitValue_byte {c : Char} (digit : c.isDigit = true) :
    digitValue (UInt8.ofNat c.toNat) = c.toNat - 48 := by
  have range := digit_range digit
  rw [digitValue, byte_toNat (by omega)]

theorem le_ofDigitChars (ds : List Char) (sig : Nat) : sig ≤ Nat.ofDigitChars 10 ds sig := by
  rw [Nat.ofDigitChars_eq_ofDigitChars_zero]
  have positive : 0 < 10 ^ ds.length := Nat.pow_pos (by decide)
  calc sig ≤ 10 ^ ds.length * sig := Nat.le_mul_of_pos_left sig positive
    _ ≤ _ := Nat.le_add_right _ _

theorem byteAt_ahead {bytes : ByteArray} {j : Nat} {r : List UInt8} (text : ahead bytes j = r) :
    byteAt bytes j = r.head?.getD 0 := by
  rw [byteAt, getElem?_ahead, text]

theorem integerDigits_end {bytes : ByteArray} {positive : Bool} {i sig : Nat} {r : List UInt8}
    (text : ahead bytes i = r) (ends : NumberEnd r) :
    integerDigits bytes positive i sig = afterInteger bytes positive sig 0 false i := by
  cases r with
  | nil =>
    rw [integerDigits, dif_neg (Nat.not_lt_of_le (size_of_ahead text))]
  | cons b r =>
    obtain ⟨inside, get⟩ := getElem_ahead text
    rw [integerDigits, dif_pos inside]
    simp only [get, (ends b rfl).1, Bool.false_eq_true, ↓reduceIte]

theorem integerDigits_reads {bytes : ByteArray} {positive : Bool} {r : List UInt8}
    (ends : NumberEnd r) :
    ∀ (ds : List Char) (i sig : Nat), (∀ c ∈ ds, c.isDigit = true) →
      ahead bytes i = ds.flatMap String.utf8EncodeChar ++ r →
      Nat.ofDigitChars 10 ds sig ≤ u64Max →
      integerDigits bytes positive i sig =
        afterInteger bytes positive (Nat.ofDigitChars 10 ds sig) 0 false (i + ds.length)
  | [], i, sig, _, text, _ => integerDigits_end text ends
  | c :: ds, i, sig, digits, text, small => by
    have digit := digits c (List.mem_cons_self ..)
    rw [List.flatMap_cons, digit_bytes digit, List.singleton_append] at text
    obtain ⟨inside, get⟩ := getElem_ahead text
    rw [Nat.ofDigitChars_cons] at small
    have fits := le_ofDigitChars ds (10 * sig + (c.toNat - '0'.toNat))
    rw [integerDigits, dif_pos inside]
    simp only [get, isDigit_byte digit, digitValue_byte digit, ↓reduceIte]
    rw [if_neg (by show ¬ _ > u64Max; rw [Nat.mul_comm]; exact Nat.not_lt_of_le (Nat.le_trans fits small)),
      integerDigits_reads ends ds (i + 1) _ (fun x mem => digits x (List.mem_cons_of_mem _ mem))
        (ahead_succ text) (by rw [Nat.mul_comm]; exact small),
      Nat.ofDigitChars_cons, List.length_cons, Nat.add_assoc, Nat.add_comm 1, Nat.mul_comm]
    rfl

theorem afterInteger_end {bytes : ByteArray} {j : Nat} {r : List UInt8} (text : ahead bytes j = r)
    (ends : NumberEnd r) (positive : Bool) (sig : Nat) :
    afterInteger bytes positive sig 0 false j =
      if positive then .ok (.nat sig, j)
      else if sig = 0 then .ok (.float (-0), j)
      else if sig ≤ Nat.pow 2 63 then .ok (.neg (-(sig : Int)), j)
      else .ok (.float (-(Decimal.Binary.nearest sig)), j) := by
  have next : ∀ b ∈ (byteAt bytes j :: []).head?, b ≠ 0x2E ∧ b ≠ 0x65 ∧ b ≠ 0x45 := by
    rw [byteAt_ahead text]
    cases r with
    | nil => intro b mem; cases mem; decide
    | cons b r => intro x mem; cases mem; exact (ends b rfl).2
  obtain ⟨notDot, notE, notUpperE⟩ := next _ rfl
  unfold afterInteger
  split
  · rename_i dot; exact absurd dot notDot
  · rename_i e; exact absurd e notE
  · rename_i e; exact absurd e notUpperE
  · rfl

theorem toDigits_lead (n : Nat) (positive : 0 < n) :
    ∃ d ds, Nat.toDigits 10 n = d :: ds ∧ d ≠ '0' := by
  induction n using Nat.strongRecOn with
  | _ n ih =>
    by_cases single : n < 10
    · have nonzero : ∀ m < 10, 0 < m → m.digitChar ≠ '0' := by decide
      exact ⟨_, [], Nat.toDigits_of_lt_base single, nonzero n single positive⟩
    · obtain ⟨d, ds, lead, nonzero⟩ := ih (n / 10) (by omega) (by omega)
      rw [Nat.toDigits_of_base_le (by decide) (by omega), lead]
      exact ⟨d, ds ++ _, rfl, nonzero⟩

theorem bytesOf_toString (n : Nat) :
    bytesOf (toString n) = (Nat.toDigits 10 n).flatMap String.utf8EncodeChar := by
  rw [bytesOf, Nat.toString_eq_ofList_toDigits, String.toList_ofList]

theorem digits_length : ∀ {ds : List Char}, (∀ c ∈ ds, c.isDigit = true) →
    (ds.flatMap String.utf8EncodeChar).length = ds.length
  | [], _ => rfl
  | c :: ds, digits => by
    rw [List.flatMap_cons, List.length_append, digit_bytes (digits c (List.mem_cons_self ..)),
      digits_length (fun x mem => digits x (List.mem_cons_of_mem _ mem)), List.length_singleton,
      List.length_cons, Nat.add_comm]

theorem scanNumber_toString {bytes : ByteArray} {i n : Nat} {r : List UInt8} (positive : Bool)
    (text : ahead bytes i = bytesOf (toString n) ++ r) (ends : NumberEnd r) (small : n ≤ u64Max) :
    scanNumber positive bytes i = afterInteger bytes positive n 0 false (i + (bytesOf (toString n)).length) := by
  have digits : ∀ c ∈ Nat.toDigits 10 n, c.isDigit = true :=
    fun c mem => Nat.isDigit_of_mem_toDigits (by decide) (by decide) mem
  rw [bytesOf_toString] at text ⊢
  unfold scanNumber
  rw [getElem?_ahead, text]
  by_cases zero : n = 0
  · -- a lone zero: the byte after it must not be another digit
    subst zero
    have zeroByte : (Nat.toDigits 10 0).flatMap String.utf8EncodeChar = [0x30] := by decide
    rw [zeroByte] at text ⊢
    have next : isDigit (byteAt bytes (i + 1)) = false := by
      rw [byteAt_ahead (ahead_succ text)]
      cases r with
      | nil => rfl
      | cons b r => exact (ends b rfl).1
    simp only [List.cons_append, List.nil_append, List.head?_cons, next, Bool.false_eq_true, ↓reduceIte]
    rfl
  · -- a nonzero number starts with a nonzero digit, then reads digit by digit
    obtain ⟨d, ds, lead, nonzero⟩ := toDigits_lead n (Nat.pos_of_ne_zero zero)
    have digit := digits d (by rw [lead]; exact List.mem_cons_self ..)
    rw [lead, List.flatMap_cons, digit_bytes digit, List.singleton_append] at text ⊢
    have notZero : UInt8.ofNat d.toNat ≠ 0x30 := by
      intro same
      have range := digit_range digit
      have value := congrArg UInt8.toNat same
      rw [byte_toNat (by omega)] at value
      exact nonzero (Char.toNat_inj.mp value)
    rw [List.cons_append, List.head?_cons]
    split
    · rename_i same; cases same
    · rename_i same; exact absurd (Option.some.inj same) notZero
    · rename_i b _ same
      cases same
      have value : Nat.ofDigitChars 10 ds (d.toNat - 48) = n := by
        have whole := Nat.ofDigitChars_ten_toDigits (n := n)
        rw [lead, Nat.ofDigitChars_cons, Nat.mul_zero, Nat.zero_add] at whole
        exact whole
      have rest : ∀ c ∈ ds, c.isDigit = true := fun c mem => digits c (by rw [lead]; exact List.mem_cons_of_mem _ mem)
      rw [if_pos (isDigit_byte digit), digitValue_byte digit,
        integerDigits_reads ends ds (i + 1) _ rest (ahead_succ text) (by rw [value]; exact small), value,
        List.length_cons, digits_length rest, Nat.add_assoc, Nat.add_comm 1]

theorem scanNumber_nat {bytes : ByteArray} {i n : Nat} {r : List UInt8}
    (text : ahead bytes i = bytesOf (toString n) ++ r) (ends : NumberEnd r) (small : n ≤ u64Max) :
    scanNumber true bytes i = .ok (.nat n, i + (bytesOf (toString n)).length) := by
  rw [scanNumber_toString true text ends small, afterInteger_end (ahead_append text) ends, if_pos rfl]

theorem scanNumber_neg {bytes : ByteArray} {i m : Nat} {r : List UInt8}
    (text : ahead bytes i = bytesOf (toString m) ++ r) (ends : NumberEnd r) (positive : 0 < m)
    (small : m ≤ Nat.pow 2 63) :
    scanNumber false bytes i = .ok (.neg (-(m : Int)), i + (bytesOf (toString m)).length) := by
  have fits : m ≤ u64Max := by
    have : Nat.pow 2 63 ≤ u64Max := by decide
    omega
  rw [scanNumber_toString false text ends fits, afterInteger_end (ahead_append text) ends,
    if_neg Bool.false_ne_true, if_neg (by omega), if_pos small]

theorem bytesOf_negative {n : Int} (negative : n < 0) :
    bytesOf (toString n) = 0x2D :: bytesOf (toString (-n).toNat) := by
  rw [Int.toString_eq_repr, Int.repr_eq_if, if_neg (by omega), bytesOf_append, Nat.toString_eq_repr]
  rfl

theorem digits_head (n : Nat) : ∃ b rest, bytesOf (toString n) = b :: rest ∧ isDigit b = true := by
  rw [bytesOf_toString]
  cases digits : Nat.toDigits 10 n with
  | nil => exact absurd digits Nat.toDigits_ne_nil
  | cons c cs =>
    have digit : c.isDigit = true :=
      Nat.isDigit_of_mem_toDigits (b := 10) (by decide) (by decide) (by rw [digits]; exact List.mem_cons_self ..)
    exact ⟨_, _, by rw [List.flatMap_cons, digit_bytes digit, List.singleton_append], isDigit_byte digit⟩

theorem digit_not_mark {b : UInt8} (digit : isDigit b = true) :
    isBlank b = false ∧ b ≠ 0x6E ∧ b ≠ 0x74 ∧ b ≠ 0x66 ∧ b ≠ 0x2D ∧ b ≠ 0x5D := by
  have range : 48 ≤ b.toNat ∧ b.toNat ≤ 57 := by
    simp only [isDigit, Bool.and_eq_true, decide_eq_true_eq, UInt8.le_iff_toNat_le] at digit
    exact digit
  have apart : ∀ m : UInt8, m.toNat < 48 ∨ 57 < m.toNat → b ≠ m := fun m out same => by subst same; omega
  refine ⟨?_, apart _ (by decide), apart _ (by decide), apart _ (by decide), apart _ (by decide),
    apart _ (by decide)⟩
  simp only [isBlank, Bool.or_eq_false_iff, decide_eq_false_iff_not]
  exact ⟨⟨⟨apart _ (by decide), apart _ (by decide)⟩, apart _ (by decide)⟩, apart _ (by decide)⟩

end Json

end CloudApi
