import CloudApi.Text.Utf8

/-!
# Decoding what UTF-8 encoding wrote

`Utf8.decode?` reads the encoding of any list of characters back (`Utf8.decode?_encoded`): each
character's bytes make one piece, and the lead bytes shut out every ill-formed form.
-/

namespace CloudApi

theorem ByteArray.toList_loop (bs : ByteArray) (i : Nat) (r : List UInt8) :
    ByteArray.toList.loop bs i r = r.reverse ++ bs.data.toList.drop i := by
  induction i, r using ByteArray.toList.loop.induct bs with
  | case1 i r inside ih =>
    have within : i < bs.data.toList.length := by rw [Array.length_toList]; exact inside
    have get : bs.get! i = bs.data.toList[i] := by
      obtain ⟨data⟩ := bs
      simp only [ByteArray.get!]
      exact getElem!_pos data i within
    rw [ByteArray.toList.loop, if_pos inside, ih, List.reverse_cons, List.append_assoc, get,
      List.singleton_append, ← List.drop_eq_getElem_cons within]
  | case2 i r outside =>
    have past : bs.data.toList.length ≤ i := by rw [Array.length_toList]; exact Nat.le_of_not_lt outside
    rw [ByteArray.toList.loop, if_neg outside, List.drop_of_length_le past, List.append_nil]


theorem byte_toNat {n : Nat} (h : n < 256) : (UInt8.ofNat n).toNat = n := by
  rw [UInt8.toNat_ofNat']; omega

theorem Utf8.isCont_byte {k : Nat} (h : k < 64) : Utf8.isCont (UInt8.ofNat (k + 128)) = true := by
  have b := byte_toNat (by omega : k + 128 < 256)
  simp only [Utf8.isCont, UInt8.le_iff_toNat_le, b, Bool.and_eq_true, decide_eq_true_eq]
  exact ⟨by show 128 ≤ k + 128; omega, by show k + 128 ≤ 191; omega⟩

theorem Utf8.lead_three {v : Nat} (lo3 : 0x800 ≤ v) (hi3 : v ≤ 0xFFFF)
    (notSurrogate : v < 0xD800 ∨ 0xDFFF < v) :
    ∃ lo hi, Utf8.lead (v / 4096 % 16 + 224) = some (3, lo, hi) ∧
      lo ≤ v / 64 % 64 + 128 ∧ v / 64 % 64 + 128 ≤ hi := by
  -- the lead byte is E0 (no overlong forms), ED (no surrogates) or one of the others
  unfold Utf8.lead
  rw [if_neg (by omega)]
  by_cases e0 : v < 0x1000
  · exact ⟨_, _, if_pos (by omega), by omega, by omega⟩
  rw [if_neg (by omega)]
  by_cases middle : v < 0xD000
  · exact ⟨_, _, if_pos (by omega), by omega, by omega⟩
  rw [if_neg (by omega)]
  by_cases ed : v < 0xE000
  · exact ⟨_, _, if_pos (by omega), by omega, by omega⟩
  rw [if_neg (by omega)]
  exact ⟨_, _, if_pos (by omega), by omega, by omega⟩

theorem Utf8.lead_four {v : Nat} (lo4 : 0xFFFF < v) (hi4 : v < 0x110000) :
    ∃ lo hi, Utf8.lead (v / 262144 % 8 + 240) = some (4, lo, hi) ∧
      lo ≤ v / 4096 % 64 + 128 ∧ v / 4096 % 64 + 128 ≤ hi := by
  -- the lead byte is F0 (no overlong forms), F4 (nothing past U+10FFFF) or one between
  unfold Utf8.lead
  rw [if_neg (by omega), if_neg (by omega), if_neg (by omega), if_neg (by omega), if_neg (by omega)]
  by_cases f0 : v < 0x40000
  · exact ⟨_, _, if_pos (by omega), by omega, by omega⟩
  rw [if_neg (by omega)]
  by_cases middle : v < 0x100000
  · exact ⟨_, _, if_pos (by omega), by omega, by omega⟩
  rw [if_neg (by omega), if_pos (by omega)]
  exact ⟨_, _, rfl, by omega, by omega⟩

theorem Utf8.pieces_encodeChar (c : Char) (rest : List UInt8) :
    Utf8.pieces (String.utf8EncodeChar c ++ rest) = .char c :: Utf8.pieces rest := by
  have valid : c.val.toNat < 0xD800 ∨ (0xDFFF < c.val.toNat ∧ c.val.toNat < 0x110000) := c.valid
  have back : Char.ofNat c.val.toNat = c := Char.ofNat_toNat c
  unfold String.utf8EncodeChar
  generalize c.val.toNat = v at back valid
  subst back
  dsimp only
  split
  · rename_i one
    have b0 := byte_toNat (by omega : v < 256)
    rw [List.cons_append, List.nil_append, Utf8.pieces.eq_2,
      if_pos (by rw [UInt8.lt_iff_toNat_lt, b0]; show v < 128; omega), b0]
  split
  · rename_i one two
    have b0 := byte_toNat (by omega : v / 64 % 32 + 192 < 256)
    have b1 := byte_toNat (by omega : v % 64 + 128 < 256)
    have lead : Utf8.lead (v / 64 % 32 + 192) = some (2, 0x80, 0xBF) := by
      unfold Utf8.lead; rw [if_pos (by omega)]
    rw [List.cons_append, List.cons_append, List.nil_append, Utf8.pieces.eq_2,
      if_neg (by rw [UInt8.lt_iff_toNat_lt, b0]; show ¬ _ < 128; omega), b0, lead]
    dsimp only
    rw [b1, if_neg (by simp; omega), if_pos rfl, Utf8.low, b1]
    congr 3
    omega
  split
  · rename_i one two three
    obtain ⟨lo, hi, lead, above, below⟩ := Utf8.lead_three (by omega) three (by omega)
    have b0 := byte_toNat (by omega : v / 4096 % 16 + 224 < 256)
    have b1 := byte_toNat (by omega : v / 64 % 64 + 128 < 256)
    have b2 := byte_toNat (by omega : v % 64 + 128 < 256)
    rw [List.cons_append, List.cons_append, List.cons_append, List.nil_append, Utf8.pieces.eq_2,
      if_neg (by rw [UInt8.lt_iff_toNat_lt, b0]; show ¬ _ < 128; omega), b0, lead]
    dsimp only
    rw [b1, if_neg (by simp; omega), if_neg (by decide), Utf8.isCont_byte (by omega),
      if_neg (by decide), if_pos rfl, Utf8.low, Utf8.low, b1, b2]
    congr 3
    omega
  · rename_i one two three
    obtain ⟨lo, hi, lead, above, below⟩ := Utf8.lead_four (by omega : 0xFFFF < v) (by omega : v < 0x110000)
    have b0 := byte_toNat (by omega : v / 262144 % 8 + 240 < 256)
    have b1 := byte_toNat (by omega : v / 4096 % 64 + 128 < 256)
    rw [List.cons_append, List.cons_append, List.cons_append, List.cons_append, List.nil_append,
      Utf8.pieces.eq_2, if_neg (by rw [UInt8.lt_iff_toNat_lt, b0]; show ¬ _ < 128; omega), b0, lead]
    dsimp only
    rw [b1, if_neg (by simp; omega), if_neg (by decide), Utf8.isCont_byte (by omega),
      if_neg (by decide), if_neg (by decide), Utf8.isCont_byte (by omega), if_neg (by decide),
      Utf8.low, Utf8.low, Utf8.low, b1, byte_toNat (by omega : v / 64 % 64 + 128 < 256),
      byte_toNat (by omega : v % 64 + 128 < 256)]
    congr 3
    omega


theorem Utf8.pieces_chars (cs : List Char) :
    Utf8.pieces (cs.flatMap String.utf8EncodeChar) = cs.map .char := by
  induction cs with
  | nil => rfl
  | cons c cs ih => rw [List.flatMap_cons, Utf8.pieces_encodeChar, ih, List.map_cons]

theorem Utf8.strict_chars (cs : List Char) :
    ∀ (at_ : Nat) (acc : String), Utf8.strict at_ acc (cs.map .char) = .ok (acc ++ String.ofList cs) := by
  induction cs with
  | nil => intro at_ acc; simp [Utf8.strict]
  | cons c cs ih =>
    intro at_ acc
    rw [List.map_cons, Utf8.strict, ih, String.push_eq_append, String.ofList_cons, String.append_assoc]

theorem Utf8.decode?_encoded {b : ByteArray} {cs : List Char}
    (encoded : b.data.toList = cs.flatMap String.utf8EncodeChar) :
    Utf8.decode? b = .ok (String.ofList cs) := by
  rw [Utf8.decode?, ByteArray.toList, ByteArray.toList_loop, encoded, List.reverse_nil,
    List.nil_append, List.drop_zero, Utf8.pieces_chars, Utf8.strict_chars, String.empty_append]

end CloudApi
