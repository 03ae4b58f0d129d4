import Mathlib
import CloudApi.Log.Config

/-!
# Cutting a text to a byte budget

`Utf8.truncateBytes s max` steps back from byte `max` to the largest character boundary at or
below it, so the cut is the longest prefix of at most `max` bytes (`truncateBytes_longest`). The
classifier and the exchange log cut bodies so.
-/

namespace CloudApi

theorem utf8ByteSize_ofList (l : List Char) :
    (String.ofList l).utf8ByteSize = (l.map Char.utf8Size).sum := by
  induction l with
  | nil => rfl
  | cons c l ih =>
    have split : String.ofList (c :: l) = String.ofList [c] ++ String.ofList l := by
      rw [← String.ofList_append]; rfl
    rw [split, String.utf8ByteSize_append, ih, ← String.singleton_eq_ofList,
      String.utf8ByteSize_singleton, List.map_cons, List.sum_cons]

/-- `t` is the longest prefix of `s` on a character boundary within `max` bytes. -/
def LongestPrefixWithin (max : Nat) (s t : String) : Prop :=
  t.toList <+: s.toList ∧ t.utf8ByteSize ≤ max ∧
    ∀ u : String, u.toList <+: s.toList → u.utf8ByteSize ≤ max → u.toList <+: t.toList

theorem size_le_of_prefix {a b : List Char} (h : a <+: b) :
    (a.map Char.utf8Size).sum ≤ (b.map Char.utf8Size).sum := by
  obtain ⟨t, rfl⟩ := h
  rw [List.map_append, List.sum_append]
  exact Nat.le_add_right _ _

theorem take_prefix_of_size_le (l : List Char) (j k : Nat)
    (h : ((l.take j).map Char.utf8Size).sum ≤ ((l.take k).map Char.utf8Size).sum) :
    l.take j <+: l.take k := by
  by_cases shorter : j ≤ k
  · exact List.take_prefix_take_left shorter
  · by_cases inside : k < l.length
    · -- the prefix of `j` characters holds the character after the first `k`
      exfalso
      have longer : l.take (k + 1) <+: l.take j := List.take_prefix_take_left (by omega)
      have grows : ((l.take (k + 1)).map Char.utf8Size).sum =
          ((l.take k).map Char.utf8Size).sum + l[k].utf8Size := by
        rw [List.take_succ_eq_append_getElem inside, List.map_append, List.sum_append]
        simp
      have := size_le_of_prefix longer
      have := Char.utf8Size_pos l[k]
      omega
    · rw [List.take_of_length_le (by omega : l.length ≤ k)]
      exact List.take_prefix j l

namespace Utf8

theorem boundaryAtOrBelow_largest (s : String) (i : Nat) :
    ∃ e, boundaryAtOrBelow s i = some e ∧ e.offset.byteIdx ≤ i ∧
      ∀ j ≤ i, (⟨j⟩ : String.Pos.Raw).IsValid s → j ≤ e.offset.byteIdx := by
  induction i with
  | zero =>
    refine ⟨⟨0, String.Pos.Raw.isValid_zero⟩, ?_, Nat.le_refl _, fun j within _ => within⟩
    rw [boundaryAtOrBelow, dif_pos String.Pos.Raw.isValid_zero]
  | succ i ih =>
    by_cases here : (⟨i + 1⟩ : String.Pos.Raw).IsValid s
    · exact ⟨⟨⟨i + 1⟩, here⟩, by rw [boundaryAtOrBelow, dif_pos here], Nat.le_refl _,
        fun j within _ => within⟩
    · obtain ⟨e, found, below, largest⟩ := ih
      refine ⟨e, by rw [boundaryAtOrBelow, dif_neg here, found], by omega, fun j within valid => ?_⟩
      have other : j ≠ i + 1 := fun same => here (same ▸ valid)
      exact largest j (by omega) valid

theorem extract_startPos_eq_take (s : String) (e : s.Pos) (k : Nat)
    (at_ : e.offset.byteIdx = (String.ofList (s.toList.take k)).utf8ByteSize) :
    s.extract s.startPos e = String.ofList (s.toList.take k) := by
  have split : s.toByteArray =
      (String.ofList (s.toList.take k)).toByteArray ++ (String.ofList (s.toList.drop k)).toByteArray := by
    conv_lhs => rw [← String.ofList_toList (s := s), ← List.take_append_drop k s.toList]
    rw [String.ofList_append, String.toByteArray_append]
  apply String.toByteArray_inj.1
  rw [String.toByteArray_extract, split, at_]
  exact ByteArray.extract_append_eq_left (String.size_toByteArray).symm

theorem truncateBytes_of_le {s : String} {max : Nat} (fits : s.utf8ByteSize ≤ max) :
    truncateBytes s max = s := by
  rw [truncateBytes, if_pos fits]

theorem truncateBytes_of_lt {s : String} {max : Nat} (spill : max < s.utf8ByteSize) :
    ∃ k, (String.ofList (s.toList.take k)).utf8ByteSize ≤ max ∧
      (∀ j ≤ max, (⟨j⟩ : String.Pos.Raw).IsValid s →
        j ≤ (String.ofList (s.toList.take k)).utf8ByteSize) ∧
      truncateBytes s max = String.ofList (s.toList.take k) := by
  obtain ⟨e, found, below, largest⟩ := boundaryAtOrBelow_largest s max
  obtain ⟨k, at_⟩ := String.Pos.Raw.isValid_iff_exists_take_toList.1 e.isValid
  refine ⟨k, at_ ▸ below, at_ ▸ largest, ?_⟩
  rw [truncateBytes, if_neg (Nat.not_le.2 spill), found]
  exact extract_startPos_eq_take s e k at_

theorem truncateBytes_longest (s : String) (max : Nat) :
    LongestPrefixWithin max s (truncateBytes s max) := by
  by_cases fits : s.utf8ByteSize ≤ max
  · rw [truncateBytes_of_le fits]
    exact ⟨List.prefix_refl _, fits, fun _ before _ => before⟩
  · obtain ⟨k, below, largest, cut⟩ := truncateBytes_of_lt (Nat.lt_of_not_le fits)
    rw [cut]
    refine ⟨by rw [String.toList_ofList]; exact List.take_prefix k _, below,
      fun u before within => ?_⟩
    -- `u` ends at a boundary within the budget, so at or below the one the scan found
    obtain ⟨t, whole⟩ := before
    have taken : u.toList = s.toList.take u.toList.length := by
      rw [← whole, List.take_left]
    have valid : (⟨u.utf8ByteSize⟩ : String.Pos.Raw).IsValid s :=
      String.Pos.Raw.isValid_iff_exists_take_toList.2
        ⟨u.toList.length, by rw [← taken, String.ofList_toList]⟩
    have le := largest _ within valid
    rw [← String.ofList_toList (s := u), utf8ByteSize_ofList, utf8ByteSize_ofList, taken] at le
    rw [String.toList_ofList, taken]
    exact take_prefix_of_size_le _ _ _ le

end Utf8

open Utf8 in
/-- Cutting a text to `max` bytes keeps its longest prefix within the budget, and the exchange
log shows a body whole when it fits and otherwise cut so, with its length. -/
theorem cut_is_longest_within_budget :
    (∀ (s : String) (max : Nat), LongestPrefixWithin max s (truncateBytes s max) ∧
      (s.utf8ByteSize ≤ max → truncateBytes s max = s)) ∧
    (∀ (s : String) (i : Nat), ∃ e, boundaryAtOrBelow s i = some e ∧ e.offset.byteIdx ≤ i ∧
      ∀ j ≤ i, (⟨j⟩ : String.Pos.Raw).IsValid s → j ≤ e.offset.byteIdx) ∧
    (∀ (c : Log.Config) (body : ByteArray),
      (let text := decodeLossy body
       (text.utf8ByteSize ≤ c.maxBodyLen → c.formatBody body = text) ∧
       (c.maxBodyLen < text.utf8ByteSize → ∃ cut, LongestPrefixWithin c.maxBodyLen text cut ∧
          c.formatBody body = cut ++ "... (" ++ toString body.size ++ " bytes)"))) := by
  refine ⟨fun s max => ⟨truncateBytes_longest s max, truncateBytes_of_le⟩,
    boundaryAtOrBelow_largest, fun c body => ⟨fun fits => ?_, fun spill => ?_⟩⟩
  · rw [Log.Config.formatBody, if_pos fits]
  · refine ⟨_, truncateBytes_longest _ _, ?_⟩
    rw [Log.Config.formatBody, if_neg (Nat.not_le.2 spill)]

theorem accented_text_fits_and_long_body_is_cut :
    "ééééé".utf8ByteSize ≤ 100 ∧ Utf8.truncateBytes "ééééé" 100 = "ééééé" ∧
      LongestPrefixWithin 3 "ééééé" (Utf8.truncateBytes "ééééé" 3) ∧
      4 < (Utf8.decodeLossy "abcdefgh".toUTF8).utf8ByteSize ∧
      ∃ cut, LongestPrefixWithin 4 (Utf8.decodeLossy "abcdefgh".toUTF8) cut ∧
        ({ maxBodyLen := 4 } : Log.Config).formatBody "abcdefgh".toUTF8 =
          cut ++ "... (" ++ toString "abcdefgh".toUTF8.size ++ " bytes)" := by
  have fits : "ééééé".utf8ByteSize ≤ 100 := by decide
  have spill : 4 < (Utf8.decodeLossy "abcdefgh".toUTF8).utf8ByteSize := by decide +kernel
  exact ⟨fits, (cut_is_longest_within_budget.1 "ééééé" 100).2 fits,
    (cut_is_longest_within_budget.1 "ééééé" 3).1, spill,
    (cut_is_longest_within_budget.2.2 { maxBodyLen := 4 } "abcdefgh".toUTF8).2 spill⟩

example : Utf8.truncateBytes "ééééé" 3 = "é" := by decide

example : ({ maxBodyLen := 4 } : Log.Config).formatBody "abcdefgh".toUTF8 = "abcd... (8 bytes)" := by
  decide +kernel

end CloudApi
