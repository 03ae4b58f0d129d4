import CloudApi.Proofs.WholeDouble
import CloudApi.Retry.Backoff

/-!
# How exponential backoff grows

For whole milliseconds below `2^53` every step of the doubling is exact, so the wait is
`min (initial · 2^attempt) cap`, except that from attempt 1024 on a zero initial delay meets
infinity and the NaN gives way to the cap.
-/

namespace CloudApi

open Float.Model Float.Model.UnpackedFloat

theorem unpack_mul (f g : Float) :
    (f * g).toModel.unpack =
      unpack .binary64 (pack .binary64 (mul .binary64 f.toModel.unpack g.toModel.unpack)) :=
  rfl

theorem truncSat_eq (f : Float) : Float.truncSat f = f.toModel.unpack.toUInt64.toNat := rfl

theorem isNaN_eq (f : Float) : f.isNaN = f.toModel.unpack.isNaN := rfl

theorem le_iff_unpack {f g : Float} : f ≤ g ↔ f.toModel.unpack.le g.toModel.unpack = true := by
  show f.le g = true ↔ _
  simp [Float.le]
  rfl

/-! ### Powers of two -/

theorem twoPow_mul_twoPow {f g : Float} {x y : Nat} (hf : f.toModel.unpack = twoPow x)
    (hg : g.toModel.unpack = twoPow y) : (f * g).toModel.unpack = twoPow (x + y) := by
  rw [unpack_mul, hf, hg]
  exact mul_twoPow (Nat.le_refl _) (Nat.pow_lt_pow_right (by decide) (by decide)) x y

theorem powNat_go_two (fuel : Nat) : ∀ {a r : Float} {x y n : Nat},
    a.toModel.unpack = twoPow x → r.toModel.unpack = twoPow y → n < 2 ^ fuel →
      (Float.powNat.go a n r fuel).toModel.unpack = twoPow (y + x * n) := by
  induction fuel with
  | zero =>
    intro a r x y n _ hr small
    obtain rfl : n = 0 := by simpa using small
    simpa [Float.powNat.go] using hr
  | succ fuel ih =>
    intro a r x y n ha hr small
    -- the lowest bit of `n` is multiplied in, the rest is left to the squared base
    have taken : (if n % 2 = 1 then r * a else r).toModel.unpack = twoPow (y + x * (n % 2)) := by
      split
      · rename_i odd
        rw [twoPow_mul_twoPow hr ha, odd, Nat.mul_one]
      · rename_i even
        rw [hr, Nat.mod_two_ne_one.1 even, Nat.mul_zero, Nat.add_zero]
    have halves : y + x * (n % 2) + (x + x) * (n / 2) = y + x * n := by
      conv_rhs => rw [← Nat.mod_add_div n 2]
      ring
    simp only [Float.powNat.go]
    split
    · rename_i last
      have single : n % 2 = n := by omega
      rw [taken, single]
    · have half : n / 2 < 2 ^ fuel := by
        rw [Nat.pow_succ] at small
        omega
      rw [ih (twoPow_mul_twoPow ha ha) taken half, halves]

theorem powNat_two (k : Nat) : (Float.powNat 2 k).toModel.unpack = twoPow k := by
  have run := powNat_go_two k (a := 2) (r := 1) (x := 1) (y := 0) rfl rfl Nat.lt_two_pow_self
  rwa [Nat.zero_add, Nat.one_mul] at run

/-! ### The capped wait -/

section Selection

variable {f g : Float} {Y : Nat} (cap : IsWhole g.toModel.unpack Y) (small : Y < 2 ^ 53)
include cap small

theorem truncSat_minNum_whole {X : Nat} (whole : IsWhole f.toModel.unpack X) :
    Float.truncSat (Float.minNum f g) = min X Y := by
  unfold Float.minNum
  rw [isNaN_eq, whole.isNaN, isNaN_eq, cap.isNaN]
  simp only [Bool.false_eq_true, if_false]
  by_cases le : X ≤ Y
  · rw [if_pos (le_iff_unpack.2 ((whole.le_iff cap).2 le)), truncSat_eq,
      whole.toUInt64 (by omega), Nat.min_eq_left le]
  · rw [if_neg (fun h => le ((whole.le_iff cap).1 (le_iff_unpack.1 h))), truncSat_eq,
      cap.toUInt64 small, Nat.min_eq_right (by omega)]

theorem truncSat_minNum_nan (nan : f.toModel.unpack = .notANumber) :
    Float.truncSat (Float.minNum f g) = Y := by
  unfold Float.minNum
  have flagged : UnpackedFloat.notANumber.isNaN = true := rfl
  rw [isNaN_eq, nan, flagged, if_pos rfl, truncSat_eq, cap.toUInt64 small]

theorem truncSat_minNum_infinity (inf : f.toModel.unpack = .infinity .positive) :
    Float.truncSat (Float.minNum f g) = Y := by
  unfold Float.minNum
  have above : ¬ f ≤ g := by
    rw [le_iff_unpack, inf, cap.infinity_le]
    exact Bool.false_ne_true
  have unflagged : (UnpackedFloat.infinity .positive).isNaN = false := rfl
  rw [isNaN_eq, inf, unflagged, isNaN_eq, cap.isNaN, if_neg Bool.false_ne_true,
    if_neg Bool.false_ne_true, if_neg above, truncSat_eq, cap.toUInt64 small]

end Selection

/-! ### Doubling backoff -/

theorem maxExponent_large : 1024 ≤ Backoff.maxExponent := by decide

/-- Doubling backoff from `i` capped at `c` waits `min (i · 2^a) c` after attempt `a`, except
for `i = 0` from attempt 1024 on, where it waits the cap. -/
theorem exponential_delay_doubles (i c a : Nat) (initialSmall : i < 2 ^ 53)
    (capSmall : c < 2 ^ 53) (sample : Float) :
    Backoff.delay (.exponential i c 2 false) a sample =
      Span.ofMillis (if i = 0 ∧ 1024 ≤ a then c else min (i * 2 ^ a) c) := by
  have cap := isWhole_nearest capSmall
  have power := powNat_two (min a Backoff.maxExponent)
  have large := maxExponent_large
  simp only [Backoff.delay, Backoff.exponential, Bool.false_eq_true, if_false]
  congr 1
  rcases Nat.eq_zero_or_pos i with rfl | pos
  · have base :
        (Decimal.Binary.nearest 0 * Float.powNat 2 (min a Backoff.maxExponent)).toModel.unpack =
          if min a Backoff.maxExponent ≤ 1023 then .zero .positive else .notANumber := by
      rw [unpack_mul, power]
      exact zero_mul_twoPow _
    by_cases late : 1024 ≤ a
    · rw [if_pos ⟨rfl, late⟩]
      exact truncSat_minNum_nan cap capSmall (by rw [base, if_neg (by omega)])
    · rw [if_neg (by omega), Nat.zero_mul]
      exact truncSat_minNum_whole cap capSmall (by rw [base, if_pos (by omega)]; exact .zero)
  · obtain ⟨top, low, high⟩ := shifted_normal pos initialSmall
    have base :
        (Decimal.Binary.nearest i * Float.powNat 2 (min a Backoff.maxExponent)).toModel.unpack =
          normalAt (i * 2 ^ (52 - i.log2)) (i.log2 + min a Backoff.maxExponent) (by omega) := by
      rw [unpack_mul, nearest_unpack pos initialSmall, power]
      exact mul_twoPow low high _ _
    rw [if_neg (by omega)]
    by_cases fits : i.log2 + min a Backoff.maxExponent ≤ 1023
    · -- the product is exact, and the exponent was not cut
      have uncut : min a Backoff.maxExponent = a := by omega
      have value : i * 2 ^ (52 - i.log2) * 2 ^ (i.log2 + a) = i * 2 ^ a * 2 ^ 52 := by
        rw [Nat.mul_assoc, Nat.mul_assoc, ← Nat.pow_add, ← Nat.pow_add]
        congr 2
        omega
      exact truncSat_minNum_whole cap capSmall
        (by rw [base, uncut]; exact isWhole_normalAt low high (by omega) value)
    · -- the product overflows, and the exact value is past the cap as well
      have huge : c < i * 2 ^ a :=
        calc c < 2 ^ 1024 := Nat.lt_trans capSmall (Nat.pow_lt_pow_right (by decide) (by decide))
          _ ≤ 2 ^ (i.log2 + min a Backoff.maxExponent) :=
            Nat.pow_le_pow_right (by decide) (by omega)
          _ = 2 ^ i.log2 * 2 ^ min a Backoff.maxExponent := Nat.pow_add _ _ _
          _ ≤ i * 2 ^ a := Nat.mul_le_mul (Nat.log2_self_le pos.ne')
              (Nat.pow_le_pow_right (by decide) (Nat.min_le_left _ _))
      rw [Nat.min_eq_right (Nat.le_of_lt huge)]
      exact truncSat_minNum_infinity cap capSmall (by rw [base, normalAt_overflow (by omega)])

theorem one_second_doubling_capped :
    (1000 < 2 ^ 53 ∧ 30000 < 2 ^ 53) ∧
      Backoff.delay (.exponential 1000 30000 2 false) 5 =
        Span.ofMillis (if 1000 = 0 ∧ 1024 ≤ 5 then 30000 else min (1000 * 2 ^ 5) 30000) :=
  ⟨⟨by decide, by decide⟩, exponential_delay_doubles 1000 30000 5 (by decide) (by decide) 0⟩

theorem zero_initial_waits_cap :
    Backoff.delay (.exponential 0 30000 2 false) 1024 ≠ Span.ofMillis (min (0 * 2 ^ 1024) 30000) := by
  decide +kernel

end CloudApi
