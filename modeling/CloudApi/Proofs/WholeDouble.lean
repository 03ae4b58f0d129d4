import Mathlib
import CloudApi.Decimal.Binary

/-!
# Whole numbers as doubles

This module follows whole numbers through Lean's logical model of `Float`. A whole number below
`2^53` is its own double (`nearest_unpack`), and multiplying by a power of two only moves the
exponent until it overflows to infinity (`mul_twoPow`).
-/

namespace CloudApi

open Float.Model Float.Model.UnpackedFloat

/-- The double `M · 2^(L - 52)` for a normal significand `M`, infinity past the largest one. -/
def normalAt (M L : Nat) (h : 0 < M) : UnpackedFloat :=
  if L ≤ 1023 then .finite .positive M ((L : Int) - 52) h else .infinity .positive

/-- The double `2^k`, infinity from `2^1024` on. -/
def twoPow (k : Nat) : UnpackedFloat := normalAt (2 ^ 52) k (Nat.two_pow_pos 52)

/-- An unpacked double that is exactly the natural number `X`. -/
inductive IsWhole : UnpackedFloat → Nat → Prop
  | zero : IsWhole (.zero .positive) 0
  | normal {M L X : Nat} (low : 2 ^ 52 ≤ M) (high : M < 2 ^ 53) (fits : L ≤ 1023)
      (value : M * 2 ^ L = X * 2 ^ 52) :
      IsWhole (.finite .positive M ((L : Int) - 52) (by omega)) X

theorem normalAt_of_fits {M L : Nat} {h : 0 < M} (fits : L ≤ 1023) :
    normalAt M L h = .finite .positive M ((L : Int) - 52) h := by
  rw [normalAt, if_pos fits]

theorem normalAt_overflow {M L : Nat} {h : 0 < M} (big : 1023 < L) :
    normalAt M L h = .infinity .positive := by
  rw [normalAt, if_neg (by omega)]

@[simp] theorem positive_mul_positive : Sign.positive * Sign.positive = .positive := rfl

/-! ### Shifting and rounding without loss -/

@[simp] theorem ofMantissaAndAccuracy_exact (m : Nat) :
    ExtendedMantissa.ofMantissaAndAccuracy m .exact = ⟨m, false, false⟩ := rfl

@[simp] theorem roundedMantissa_exact (m : Nat) :
    (⟨m, false, false⟩ : ExtendedMantissa).roundedMantissa = m := rfl

@[simp] theorem shiftRight_zero (em : ExtendedMantissa) : em >>> 0 = em := rfl

theorem shiftRight_exact (n : Nat) : ∀ m : Nat,
    (⟨m * 2 ^ n, false, false⟩ : ExtendedMantissa) >>> n = ⟨m, false, false⟩ := by
  induction n with
  | zero => intro m; simp
  | succ n ih =>
    intro m
    show ExtendedMantissa.shiftRightOne
      (Nat.repeat ExtendedMantissa.shiftRightOne n ⟨m * 2 ^ (n + 1), false, false⟩) = _
    have twice : m * 2 ^ (n + 1) = (2 * m) * 2 ^ n := by
      rw [Nat.pow_succ, Nat.mul_comm (2 ^ n) 2, ← Nat.mul_assoc, Nat.mul_comm m 2]
    have step := ih (2 * m)
    change Nat.repeat ExtendedMantissa.shiftRightOne n _ = _ at step
    rw [twice, step]
    simp [ExtendedMantissa.shiftRightOne]

theorem unpackSign_packComponents {spec : Format} {sign exponent mantissa} :
    unpackSign (packComponents spec sign exponent mantissa) = sign.toBitVec := by
  ext i hi
  obtain rfl : i = 0 := by omega
  have := spec.he
  rw [← BitVec.getLsbD_eq_getElem, ← BitVec.getLsbD_eq_getElem]
  simp only [unpackSign, packComponents, BitVec.getLsbD_cast, BitVec.getLsbD_extractLsb,
    BitVec.getLsbD_append]
  simp

theorem pack_overflow {s : Sign} {M : Nat} {e : Int} {h : 0 < M} (big : 972 ≤ e) :
    pack .binary64 (.finite s M e h) = pack .binary64 (.infinity s) := by
  have bias : Format.binary64.exponentBias = 1023 := by decide
  simp only [UnpackedFloat.pack, bias, Nat.cast_ofNat]
  rw [if_pos (by omega)]

/-! ### Normal significands -/

section Normal

variable {M : Nat} (low : 2 ^ 52 ≤ M) (high : M < 2 ^ 53)
include low high

theorem log2_normal_mul (k : Nat) : (M * 2 ^ k).log2 = 52 + k := by
  have pos : M * 2 ^ k ≠ 0 := Nat.mul_ne_zero (by omega) (Nat.two_pow_pos k).ne'
  rw [Nat.log2_eq_iff pos]
  constructor
  · rw [Nat.pow_add]; exact Nat.mul_le_mul_right _ low
  · calc M * 2 ^ k < 2 ^ 53 * 2 ^ k := Nat.mul_lt_mul_of_pos_right high (Nat.two_pow_pos k)
      _ = 2 ^ (52 + k + 1) := by rw [← Nat.pow_add]; congr 1; omega

theorem log2_normal : M.log2 = 52 := by
  simpa using log2_normal_mul low high 0

theorem roundWithAccuracy_exact {s : Sign} (k : Nat) {e E : Int} (sum : e + k = E)
    (range : -1074 ≤ E) :
    roundWithAccuracy .binary64 s (M * 2 ^ k) e .exact = .finite s M E (by omega) := by
  subst sum
  have minExp : Format.binary64.minExponent = -1074 := by decide
  have bits : Format.binary64.mantissaBits = 53 := by decide
  have target : Format.binary64.targetExponent (totalExponent (M * 2 ^ k) e) = e + k := by
    rw [Format.targetExponent, totalExponent, log2_normal_mul low high, minExp, bits]
    omega
  have again : Format.binary64.targetExponent (totalExponent M (e + k)) = e + k := by
    rw [Format.targetExponent, totalExponent, log2_normal low high, minExp, bits]
    omega
  have shift : (e + k - e).toNat = k := by omega
  have settled : (e + k - (e + k)).toNat = 0 := by omega
  have nonzero : M ≠ 0 := by omega
  simp only [roundWithAccuracy, shiftToTargetExponent, shiftToExponent, target, shift,
    ofMantissaAndAccuracy_exact, shiftRight_exact, roundedMantissa_exact, again, settled,
    shiftRight_zero, nonzero, ↓reduceDIte]
  simp

theorem pack_normal {e : Int} (lo : -1074 ≤ e) (hi : e ≤ 971) :
    pack .binary64 (.finite .positive M e (by omega)) =
      packComponents .binary64 .positive (BitVec.ofNat 11 (e + 1075).toNat) (BitVec.ofNat 52 M) := by
  have bias : Format.binary64.exponentBias = 1023 := by decide
  have bits : Format.binary64.mantissaBits = 53 := by decide
  simp only [UnpackedFloat.pack, bias, log2_normal low high, bits, Nat.cast_ofNat]
  rw [if_neg (by omega), if_pos trivial, show e + 1023 + 52 = e + 1075 by omega]

theorem unpack_pack_normal {e : Int} (lo : -1074 ≤ e) (hi : e ≤ 971) :
    unpack .binary64 (pack .binary64 (.finite .positive M e (by omega))) =
      .finite .positive M e (by omega) := by
  have bias : Format.binary64.exponentBias = 1023 := by decide
  have expBits : (BitVec.ofNat 11 (e + 1075).toNat).toNat = (e + 1075).toNat := by
    rw [BitVec.toNat_ofNat, Nat.mod_eq_of_lt (by omega)]
  -- the biased exponent is neither all ones (infinity, NaN) nor zero (subnormal)
  have field : ∀ v : BitVec 11, v.toNat ≠ (e + 1075).toNat →
      BitVec.ofNat 11 (e + 1075).toNat ≠ v := by
    intro v differs same
    rw [← same, expBits] at differs
    exact differs rfl
  have notTop := field (-1#11) (by simp; omega)
  have notBottom := field 0#11 (by simp; omega)
  -- the implicit leading bit comes back in front of the 52 stored ones
  have significand : (1#1 ++ BitVec.ofNat 52 M).toNat = M := by
    have below : M % 2 ^ 52 < 2 ^ 52 := Nat.mod_lt _ (Nat.two_pow_pos 52)
    rw [BitVec.toNat_append, BitVec.toNat_ofNat, BitVec.toNat_ofNat,
      ← Nat.shiftLeft_add_eq_or_of_lt below]
    simp [Nat.shiftLeft_eq]
    omega
  rw [pack_normal low high lo hi]
  unfold UnpackedFloat.unpack
  simp only [unpackMantissa_packComponents, unpackExponent_packComponents,
    unpackSign_packComponents]
  rw [if_neg notTop, if_neg notBottom]
  congr 1
  rw [expBits, bias]
  omega

theorem unpack_pack_normalAt (L : Nat) :
    unpack .binary64 (pack .binary64 (.finite .positive M ((L : Int) - 52) (by omega))) =
      normalAt M L (by omega) := by
  unfold normalAt
  split
  · exact unpack_pack_normal low high (by omega) (by omega)
  · rw [pack_overflow (by omega)]
    rfl

theorem mul_twoPow (L k : Nat) :
    unpack .binary64 (pack .binary64 (mul .binary64 (normalAt M L (by omega)) (twoPow k))) =
      normalAt M (L + k) (by omega) := by
  by_cases small : L ≤ 1023 <;> by_cases twoSmall : k ≤ 1023
  · have product := roundWithAccuracy_exact (s := .positive) low high 52
      (e := (L : Int) - 52 + ((k : Int) - 52)) (E := ((L + k : Nat) : Int) - 52) (by omega)
      (by omega)
    rw [normalAt, if_pos small, twoPow, normalAt, if_pos twoSmall]
    simp only [UnpackedFloat.mul, positive_mul_positive]
    rw [product]
    exact unpack_pack_normalAt low high (L + k)
  -- a factor is infinity, and so is the product
  · rw [normalAt, if_pos small, twoPow, normalAt, if_neg twoSmall, normalAt, if_neg (by omega)]
    simp only [UnpackedFloat.mul, positive_mul_positive]
    rfl
  · rw [normalAt, if_neg small, twoPow, normalAt, if_pos twoSmall, normalAt, if_neg (by omega)]
    simp only [UnpackedFloat.mul, positive_mul_positive]
    rfl
  · rw [normalAt, if_neg small, twoPow, normalAt, if_neg twoSmall, normalAt, if_neg (by omega)]
    rfl

theorem toBitVec_normalBits {L : Nat} (fits : L ≤ 1023) :
    (((L + 1023) * 2 ^ 52 + (M - 2 ^ 52)).toUInt64).toBitVec =
      pack .binary64 (.finite .positive M ((L : Int) - 52) (by omega)) := by
  rw [pack_normal low high (by omega) (by omega), Nat.toUInt64_eq, UInt64.toBitVec_ofNat']
  apply BitVec.eq_of_toNat_eq
  have biased : ((L : Int) - 52 + 1075).toNat % 2 ^ 11 = L + 1023 := by
    rw [Nat.mod_eq_of_lt (by omega)]; omega
  have twice : 2 ^ 53 = 2 * 2 ^ 52 := Nat.pow_succ'
  have fraction : M % 2 ^ 52 = M - 2 ^ 52 := by
    rw [Nat.mod_eq_sub_mod low, Nat.mod_eq_of_lt (by omega)]
  have fractionLt : M - 2 ^ 52 < 2 ^ 52 := by omega
  have word : (L + 1023) * 2 ^ 52 + (M - 2 ^ 52) < 2 ^ 64 :=
    calc (L + 1023) * 2 ^ 52 + (M - 2 ^ 52) < (L + 1023) * 2 ^ 52 + 2 ^ 52 :=
          Nat.add_lt_add_left fractionLt _
      _ = (L + 1024) * 2 ^ 52 := by ring
      _ ≤ 2047 * 2 ^ 52 := Nat.mul_le_mul_right _ (by omega)
      _ < 2 ^ 64 := by norm_num
  rw [BitVec.toNat_ofNat, Nat.mod_eq_of_lt word, packComponents, BitVec.toNat_append,
    BitVec.toNat_append, BitVec.toNat_ofNat, BitVec.toNat_ofNat, biased, fraction,
    ← Nat.shiftLeft_add_eq_or_of_lt fractionLt]
  show (L + 1023) * 2 ^ 52 + (M - 2 ^ 52) = (0 <<< 11 ||| L + 1023) <<< 52 + (M - 2 ^ 52)
  rw [Nat.zero_shiftLeft, Nat.zero_or, Nat.shiftLeft_eq]

theorem isWhole_normalAt {L X : Nat} (fits : L ≤ 1023) (value : M * 2 ^ L = X * 2 ^ 52) :
    IsWhole (normalAt M L (by omega)) X := by
  rw [normalAt_of_fits fits]
  exact .normal low high fits value

end Normal

theorem zero_mul_twoPow (k : Nat) :
    unpack .binary64 (pack .binary64 (mul .binary64 (.zero .positive) (twoPow k))) =
      if k ≤ 1023 then .zero .positive else .notANumber := by
  rw [twoPow, normalAt]
  split <;> simp only [UnpackedFloat.mul, positive_mul_positive] <;> rfl

/-! ### Whole doubles -/

theorem IsWhole.isNaN {u : UnpackedFloat} {X : Nat} (whole : IsWhole u X) : u.isNaN = false := by
  cases whole <;> rfl

theorem IsWhole.infinity_le {v : UnpackedFloat} {Y : Nat} (whole : IsWhole v Y) :
    (UnpackedFloat.infinity .positive).le v = false := by
  cases whole <;> rfl

theorem normal_lt_of_lower {M₁ M₂ L₁ L₂ : Nat} (high₁ : M₁ < 2 ^ 53) (low₂ : 2 ^ 52 ≤ M₂)
    (lower : L₁ < L₂) : M₁ * 2 ^ L₁ < M₂ * 2 ^ L₂ :=
  calc M₁ * 2 ^ L₁ < 2 ^ 53 * 2 ^ L₁ := Nat.mul_lt_mul_of_pos_right high₁ (Nat.two_pow_pos _)
    _ = 2 ^ 52 * 2 ^ (L₁ + 1) := by rw [← Nat.pow_add, ← Nat.pow_add]; congr 1; omega
    _ ≤ 2 ^ 52 * 2 ^ L₂ := Nat.mul_le_mul_left _ (Nat.pow_le_pow_right (by decide) lower)
    _ ≤ M₂ * 2 ^ L₂ := Nat.mul_le_mul_right _ low₂

theorem normal_le_normal {M₁ M₂ L₁ L₂ : Nat} (low₁ : 2 ^ 52 ≤ M₁) (high₁ : M₁ < 2 ^ 53)
    (low₂ : 2 ^ 52 ≤ M₂) (high₂ : M₂ < 2 ^ 53) :
    (UnpackedFloat.finite .positive M₁ ((L₁ : Int) - 52) (by omega)).le
        (.finite .positive M₂ ((L₂ : Int) - 52) (by omega)) = true ↔
      M₁ * 2 ^ L₁ ≤ M₂ * 2 ^ L₂ := by
  simp only [UnpackedFloat.le, UnpackedFloat.compare, Option.any_some]
  rcases Nat.lt_trichotomy L₁ L₂ with lower | same | higher
  · have order : compare ((L₁ : Int) - 52) ((L₂ : Int) - 52) = .lt :=
      compare_lt_iff_lt.2 (by omega)
    simp only [order, Ordering.lt_then, Ordering.isLE_lt, true_iff]
    exact Nat.le_of_lt (normal_lt_of_lower high₁ low₂ lower)
  · subst same
    have order : compare ((L₁ : Int) - 52) ((L₁ : Int) - 52) = .eq := compare_eq_iff_eq.2 rfl
    simp only [order, Ordering.eq_then, Nat.mul_le_mul_right_iff (Nat.two_pow_pos _)]
    exact Nat.isLE_compare
  · have order : compare ((L₁ : Int) - 52) ((L₂ : Int) - 52) = .gt :=
      compare_gt_iff_gt.2 (by omega)
    simp only [order, Ordering.gt_then, Ordering.isLE_gt, Bool.false_eq_true, false_iff,
      Nat.not_le]
    exact normal_lt_of_lower high₂ low₁ higher

theorem IsWhole.le_iff {u v : UnpackedFloat} {X Y : Nat} (hu : IsWhole u X) (hv : IsWhole v Y) :
    u.le v = true ↔ X ≤ Y := by
  cases hu with
  | zero => cases hv <;> simp <;> rfl
  | normal low₁ high₁ fits₁ value₁ =>
    cases hv with
    | zero =>
      have : 0 < X :=
        Nat.pos_of_mul_pos_right (value₁ ▸ Nat.mul_pos (by omega) (Nat.two_pow_pos _))
      simp [Nat.pos_iff_ne_zero.1 this, UnpackedFloat.le, UnpackedFloat.compare]
    | normal low₂ high₂ fits₂ value₂ =>
      rw [normal_le_normal low₁ high₁ low₂ high₂, value₁, value₂]
      exact Nat.mul_le_mul_right_iff (Nat.two_pow_pos _)

theorem IsWhole.toUInt64 {u : UnpackedFloat} {X : Nat} (whole : IsWhole u X)
    (small : X < 2 ^ 53) : u.toUInt64.toNat = X := by
  cases whole with
  | zero => rfl
  | normal low high fits value =>
    rename_i M L
    -- below `2^53` the leading bit is at most `2^52`: no bit of the significand is a fraction
    have top : L ≤ 52 := by
      by_contra big
      have above : 2 ^ 52 * 2 ^ 53 ≤ M * 2 ^ L :=
        Nat.mul_le_mul low (Nat.pow_le_pow_right (by decide) (by omega))
      have below : X * 2 ^ 52 < 2 ^ 53 * 2 ^ 52 :=
        Nat.mul_lt_mul_of_pos_right small (Nat.two_pow_pos _)
      rw [Nat.mul_comm (2 ^ 53)] at below
      omega
    have scaled : M = X * 2 ^ (52 - L) := by
      apply Nat.eq_of_mul_eq_mul_right (Nat.two_pow_pos L)
      rw [value, Nat.mul_assoc, ← Nat.pow_add, Nat.sub_add_cancel top]
    have kept : ((L : Int) - 52 - 0).toNat = 0 := by omega
    have down : (0 - ((L : Int) - 52 - ((0 : Nat) : Int))).toNat = 52 - L := by omega
    simp only [UnpackedFloat.toUInt64, toInt, roundToInt, decreaseExponent, kept,
      Nat.shiftLeft_zero, shiftToExponent, down, ofMantissaAndAccuracy_exact, scaled,
      shiftRight_exact]
    have fitsWord : X < UInt64.size := Nat.lt_trans small (by decide)
    simp [Sign.apply, UInt64.ofNatClamp, fitsWord]

/-! ### Nearest doubles of whole numbers -/

theorem ofBits_unpack (b : UInt64) :
    (Float.ofBits b).toModel.unpack =
      unpack .binary64 (pack .binary64 (unpack .binary64 b.toBitVec)) :=
  rfl

theorem shifted_normal {n : Nat} (pos : 0 < n) (small : n < 2 ^ 53) :
    n.log2 ≤ 52 ∧ 2 ^ 52 ≤ n * 2 ^ (52 - n.log2) ∧ n * 2 ^ (52 - n.log2) < 2 ^ 53 := by
  have top : n.log2 ≤ 52 := by
    have := (Nat.log2_lt pos.ne').2 small
    omega
  refine ⟨top, ?_, ?_⟩
  · calc 2 ^ 52 = 2 ^ n.log2 * 2 ^ (52 - n.log2) := by rw [← Nat.pow_add, Nat.add_sub_cancel' top]
      _ ≤ n * 2 ^ (52 - n.log2) := Nat.mul_le_mul_right _ (Nat.log2_self_le pos.ne')
  · calc n * 2 ^ (52 - n.log2) < 2 ^ (n.log2 + 1) * 2 ^ (52 - n.log2) :=
          Nat.mul_lt_mul_of_pos_right Nat.lt_log2_self (Nat.two_pow_pos _)
      _ = 2 ^ 53 := by rw [← Nat.pow_add]; congr 1; omega

theorem nearest_unpack {n : Nat} (pos : 0 < n) (small : n < 2 ^ 53) :
    (Decimal.Binary.nearest n).toModel.unpack =
      normalAt (n * 2 ^ (52 - n.log2)) n.log2 (Nat.mul_pos pos (Nat.two_pow_pos _)) := by
  obtain ⟨top, low, high⟩ := shifted_normal pos small
  simp only [Decimal.Binary.nearest, if_neg pos.ne', if_pos top, Nat.pow_eq]
  -- the bits are read back once by `ofBits` and once by `toModel`
  rw [if_neg (by omega), ofBits_unpack, toBitVec_normalBits low high (by omega),
    normalAt_of_fits (by omega), unpack_pack_normal low high (by omega) (by omega),
    unpack_pack_normal low high (by omega) (by omega)]

theorem isWhole_nearest {n : Nat} (small : n < 2 ^ 53) :
    IsWhole (Decimal.Binary.nearest n).toModel.unpack n := by
  rcases Nat.eq_zero_or_pos n with rfl | pos
  · exact .zero
  · obtain ⟨top, low, high⟩ := shifted_normal pos small
    rw [nearest_unpack pos small]
    exact isWhole_normalAt low high (by omega)
      (by rw [Nat.mul_assoc, ← Nat.pow_add, Nat.sub_add_cancel top])

end CloudApi
