import CloudApi.Proofs.JsonLiterals
import CloudApi.Web.Url

/-!
# Percent-decoding what percent-encoding wrote

Percent-decoding reads back every text that an encoding escaping `%` wrote
(`percentDecode_percentEncode`), and a spelling of a dot segment decodes to its dots whatever the
case of its escapes.
-/

namespace CloudApi

theorem ByteArray.toList_eq_data (bs : ByteArray) : bs.toList = bs.data.toList := by
  rw [ByteArray.toList, ByteArray.toList_loop, List.reverse_nil, List.nil_append, List.drop_zero]

theorem Utf8.foldl_push (cs : List Char) :
    ∀ acc : String, cs.foldl String.push acc = acc ++ String.ofList cs := by
  induction cs with
  | nil => intro acc; simp
  | cons c cs ih =>
    intro acc
    rw [List.foldl_cons, ih, String.push_eq_append, String.ofList_cons, String.append_assoc]

theorem Utf8.decodeLossy_chars (cs : List Char) :
    Utf8.decodeLossy ⟨(cs.flatMap String.utf8EncodeChar).toArray⟩ = String.ofList cs := by
  rw [Utf8.decodeLossy, ByteArray.toList_eq_data, List.toList_toArray, Utf8.pieces_chars,
    List.foldl_map]
  exact (Utf8.foldl_push cs "").trans (String.empty_append ..)

theorem Char.toLower_cases (c : Char) :
    c.toLower = c ∨ (65 ≤ c.toNat ∧ c.toNat ≤ 90 ∧ c.toLower.toNat = c.toNat + 32) := by
  unfold Char.toLower
  split
  · rename_i upper
    right
    have bounds : 65 ≤ c.val.toNat ∧ c.val.toNat ≤ 90 := by
      simpa [UInt32.le_iff_toNat_le] using upper
    refine ⟨bounds.1, bounds.2, ?_⟩
    show (c.val + ('a'.val - 'A'.val)).toNat = c.val.toNat + 32
    rw [UInt32.toNat_add]
    have shift : ('a'.val - 'A'.val).toNat = 32 := by decide
    omega
  · exact .inl rfl

theorem Char.eq_of_toLower_eq {c d : Char} (lower : c.toLower = d)
    (notSmall : d.toNat < 97 ∨ 122 < d.toNat) : c = d := by
  rcases Char.toLower_cases c with same | ⟨_, _, shifted⟩
  · rw [← lower, same]
  · rw [lower] at shifted
    omega

theorem Char.toLower_eq_e {c : Char} (lower : c.toLower = 'e') : c = 'e' ∨ c = 'E' := by
  rcases Char.toLower_cases c with same | ⟨_, _, shifted⟩
  · exact .inl (same ▸ lower)
  · rw [lower] at shifted
    have capital : c.toNat = ('E' : Char).toNat := by
      rw [show ('E' : Char).toNat = 69 from rfl]
      simp at shifted
      omega
    exact .inr (Char.toNat_inj.mp capital)

namespace Web

open Json (bytesOf)

/-! ### Octets -/

theorem hexDigit_byte : ∀ n < 16,
    String.utf8EncodeChar (hexDigit n) = [UInt8.ofNat (hexDigit n).toNat] := by
  decide

theorem hexValue_hexDigit : ∀ n < 16, hexValue (UInt8.ofNat (hexDigit n).toNat) = some n := by
  decide

theorem bytesOf_escapeOctet (b : UInt8) :
    bytesOf (escapeOctet b) =
      [37, UInt8.ofNat (hexDigit (b.toNat / 16)).toNat, UInt8.ofNat (hexDigit (b.toNat % 16)).toNat] := by
  have hi : b.toNat / 16 < 16 := by have := b.toNat_lt; omega
  have lo : b.toNat % 16 < 16 := Nat.mod_lt _ (by decide)
  simp only [escapeOctet, bytesOf, String.toList_ofList, List.flatMap_cons, List.flatMap_nil,
    hexDigit_byte _ hi, hexDigit_byte _ lo]
  rfl

theorem percentDecodeOctets_escape (b : UInt8) (rest : List UInt8) :
    percentDecodeOctets (bytesOf (escapeOctet b) ++ rest) = b :: percentDecodeOctets rest := by
  have hi : b.toNat / 16 < 16 := by have := b.toNat_lt; omega
  have lo : b.toNat % 16 < 16 := Nat.mod_lt _ (by decide)
  rw [bytesOf_escapeOctet]
  simp only [List.cons_append, List.nil_append, percentDecodeOctets, hexValue_hexDigit _ hi,
    hexValue_hexDigit _ lo]
  rw [show 16 * (b.toNat / 16) + b.toNat % 16 = b.toNat by omega, UInt8.ofNat_toNat]

theorem percentDecodeOctets_cons {b : UInt8} (notPercent : b ≠ 37) (rest : List UInt8) :
    percentDecodeOctets (b :: rest) = b :: percentDecodeOctets rest := by
  rw [percentDecodeOctets.eq_def]
  split
  · rename_i empty
    cases empty
  · rename_i escape
    exact absurd (List.cons.inj escape).1 notPercent
  · rename_i plain
    obtain ⟨rfl, rfl⟩ := List.cons.inj plain
    rfl

theorem percentDecodeOctets_unescaped {l : List UInt8} (noPercent : ∀ b ∈ l, b ≠ 37)
    (rest : List UInt8) : percentDecodeOctets (l ++ rest) = l ++ percentDecodeOctets rest := by
  induction l with
  | nil => rfl
  | cons b l ih =>
    have notPercent := noPercent b List.mem_cons_self
    have tail := ih fun x mem => noPercent x (List.mem_cons_of_mem _ mem)
    rw [List.cons_append, List.cons_append, percentDecodeOctets_cons notPercent, tail]

theorem percentDecodeOctets_escapes (l rest : List UInt8) :
    percentDecodeOctets ((l.map escapeOctet).flatMap bytesOf ++ rest) =
      l ++ percentDecodeOctets rest := by
  induction l with
  | nil => rfl
  | cons b l ih =>
    rw [List.map_cons, List.flatMap_cons, List.append_assoc, percentDecodeOctets_escape, ih,
      List.cons_append]

theorem octets_singleton (c : Char) :
    (String.singleton c).toUTF8.toList = String.utf8EncodeChar c := by
  rw [ByteArray.toList_eq_data, Json.toUTF8_data, bytesOf, String.toList_singleton,
    List.flatMap_singleton]

theorem bytesOf_join (l : List String) : bytesOf (String.join l) = l.flatMap bytesOf := by
  simp only [bytesOf, String.toList_join, List.flatMap_assoc]
  rfl

/-! ### Texts -/

theorem percentDecodeOctets_encodeChar {s : EncodeSet} (percent : s.escapes 37 = true) (c : Char)
    (rest : List UInt8) :
    percentDecodeOctets (bytesOf (encodeChar s c) ++ rest) =
      String.utf8EncodeChar c ++ percentDecodeOctets rest := by
  unfold encodeChar
  dsimp only
  rw [octets_singleton]
  split
  · rw [bytesOf_join, percentDecodeOctets_escapes]
  · rename_i kept
    -- a character kept as it is has no octet that is escaped, so none is a percent sign
    have unescaped : ∀ b ∈ String.utf8EncodeChar c, b ≠ 37 := by
      intro b mem same
      subst same
      exact kept (List.any_eq_true.2 ⟨37, mem, percent⟩)
    rw [bytesOf, String.toList_singleton, List.flatMap_singleton,
      percentDecodeOctets_unescaped unescaped]

theorem percentDecode_percentEncode {s : EncodeSet} (percent : s.escapes 37 = true) (t : String) :
    percentDecode (percentEncode s t) = t := by
  have octets : percentDecodeOctets (bytesOf (percentEncode s t)) =
      t.toList.flatMap String.utf8EncodeChar := by
    rw [percentEncode, bytesOf_join, List.flatMap_map]
    induction t.toList with
    | nil => rfl
    | cons c cs ih =>
      rw [List.flatMap_cons, percentDecodeOctets_encodeChar percent, ih, List.flatMap_cons]
  rw [percentDecode, ByteArray.toList_eq_data, Json.toUTF8_data, octets, Utf8.decodeLossy_chars,
    String.ofList_toList]

example : percentEncode .segment "a b/c?d" = "a%20b%2Fc%3Fd" := by decide +kernel

/-! ### Spellings of dot segments -/

theorem escape_spelled {a b c : Char} (ha : a.toLower = '%') (hb : b.toLower = '2')
    (hc : c.toLower = 'e') : a = '%' ∧ b = '2' ∧ (c = 'e' ∨ c = 'E') :=
  ⟨Char.eq_of_toLower_eq ha (by decide), Char.eq_of_toLower_eq hb (by decide),
    Char.toLower_eq_e hc⟩

theorem dot_spelled {a : Char} (ha : a.toLower = '.') : a = '.' :=
  Char.eq_of_toLower_eq ha (by decide)

theorem percentDecode_of_isSingleDot {x : String} (single : isSingleDot x = true) :
    percentDecode x = "." := by
  obtain ⟨l, rfl⟩ := String.exists_eq_ofList x
  unfold isSingleDot asciiLower at single
  simp only [Bool.or_eq_true, beq_iff_eq, String.toList_ofList] at single
  rcases single with dot | lower
  · rw [dot]
    decide +kernel
  · have spelled : l.map Char.toLower = ['%', '2', 'e'] := by
      rw [← String.toList_ofList (l := l.map Char.toLower), lower]
      rfl
    simp only [List.map_eq_cons_iff, List.map_eq_nil_iff] at spelled
    obtain ⟨a, _, rfl, ha, b, _, rfl, hb, c, _, rfl, hc, rfl⟩ := spelled
    obtain ⟨rfl, rfl, rfl | rfl⟩ := escape_spelled ha hb hc <;> decide +kernel

theorem percentDecode_of_isDoubleDot {x : String} (double : isDoubleDot x = true) :
    percentDecode x = ".." := by
  obtain ⟨l, rfl⟩ := String.exists_eq_ofList x
  unfold isDoubleDot asciiLower at double
  simp only [Bool.or_eq_true, beq_iff_eq, String.toList_ofList] at double
  have lowered : ∀ t : String, String.ofList (l.map Char.toLower) = t →
      l.map Char.toLower = t.toList :=
    fun t same => by rw [← same, String.toList_ofList]
  -- each spelling fixes every character but the `e` of an escape, which may be a capital
  rcases double with ((dots | dots) | dots) | dots
  · have spelled : l.map Char.toLower = ['.', '.'] := (lowered _ dots).trans rfl
    simp only [List.map_eq_cons_iff, List.map_eq_nil_iff] at spelled
    obtain ⟨a, _, rfl, ha, b, _, rfl, hb, rfl⟩ := spelled
    obtain rfl := dot_spelled ha
    obtain rfl := dot_spelled hb
    decide +kernel
  · have spelled : l.map Char.toLower = ['.', '%', '2', 'e'] := (lowered _ dots).trans rfl
    simp only [List.map_eq_cons_iff, List.map_eq_nil_iff] at spelled
    obtain ⟨a, _, rfl, ha, b, _, rfl, hb, c, _, rfl, hc, d, _, rfl, hd, rfl⟩ := spelled
    obtain rfl := dot_spelled ha
    obtain ⟨rfl, rfl, rfl | rfl⟩ := escape_spelled hb hc hd <;> decide +kernel
  · have spelled : l.map Char.toLower = ['%', '2', 'e', '.'] := (lowered _ dots).trans rfl
    simp only [List.map_eq_cons_iff, List.map_eq_nil_iff] at spelled
    obtain ⟨a, _, rfl, ha, b, _, rfl, hb, c, _, rfl, hc, d, _, rfl, hd, rfl⟩ := spelled
    obtain rfl := dot_spelled hd
    obtain ⟨rfl, rfl, rfl | rfl⟩ := escape_spelled ha hb hc <;> decide +kernel
  · have spelled : l.map Char.toLower = ['%', '2', 'e', '%', '2', 'e'] := (lowered _ dots).trans rfl
    simp only [List.map_eq_cons_iff, List.map_eq_nil_iff] at spelled
    obtain ⟨a, _, rfl, ha, b, _, rfl, hb, c, _, rfl, hc, d, _, rfl, hd, e, _, rfl, he, f, _, rfl,
      hf, rfl⟩ := spelled
    obtain ⟨rfl, rfl, rfl | rfl⟩ := escape_spelled ha hb hc <;>
      obtain ⟨rfl, rfl, rfl | rfl⟩ := escape_spelled hd he hf <;> decide +kernel

end Web

end CloudApi
