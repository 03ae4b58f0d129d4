/-!
# Naturals as doubles

`Binary.nearest n` is the double nearest to the natural `n`, a tie going to the even significand,
and infinity when `n` rounds past the largest finite double. It is built from its bits, so that
it depends on no rounding but its own. `Binary.nearestRatio p q` does the same for a quotient
of naturals, subnormals included.
-/

namespace CloudApi.Decimal.Binary

/-- The double nearest to `n`; ties go to the even significand. -/
def nearest (n : Nat) : Float :=
  if n = 0 then 0 else
  let l := Nat.log2 n
  let (q, e) :=
    if l ≤ 52 then (n * Nat.pow 2 (52 - l), l)
    else
      let shift := l - 52
      let q := n / Nat.pow 2 shift
      let r := n % Nat.pow 2 shift
      let half := Nat.pow 2 (shift - 1)
      let q := if r > half ∨ (r = half ∧ q % 2 = 1) then q + 1 else q
      if q = Nat.pow 2 53 then (Nat.pow 2 52, l + 1) else (q, l)
  if e + 1023 ≥ 2047 then Float.ofBits 0x7FF0000000000000
  else Float.ofBits (((e + 1023) * Nat.pow 2 52 + (q - Nat.pow 2 52)).toUInt64)

/-- The double nearest to `10^k`. -/
def tenPow (k : Nat) : Float := nearest (Nat.pow 10 k)

/-- Whether `p / q ≥ 2^l`. -/
def ratioAtLeast (p q : Nat) (l : Int) : Bool :=
  if 0 ≤ l then p ≥ q * Nat.pow 2 l.toNat else p * Nat.pow 2 (-l).toNat ≥ q

/-- The double nearest to `p / q`, a tie going to the even significand. A quotient below the
least subnormal's half becomes zero, one past the largest finite double becomes infinity, and
a zero denominator gives zero. The significand is `p / q` scaled by `2^-e` into `[2^52, 2^53)`,
or by `2^1074` when that is smaller, and rounded once. -/
def nearestRatio (p q : Nat) : Float :=
  if p = 0 ∨ q = 0 then 0 else
  let l : Int := (Nat.log2 p : Int) - Nat.log2 q
  let l := if ratioAtLeast p q l then l else l - 1
  let e := max (l - 52) (-1074)
  let (num, den) := if 0 ≤ e then (p, q * Nat.pow 2 e.toNat) else (p * Nat.pow 2 (-e).toNat, q)
  let s := num / den
  let r := num % den
  let s := if 2 * r > den ∨ (2 * r = den ∧ s % 2 = 1) then s + 1 else s
  let (s, e) := if s = Nat.pow 2 53 then (Nat.pow 2 52, e + 1) else (s, e)
  if s < Nat.pow 2 52 then Float.ofBits s.toUInt64
  else if e + 1075 ≥ 2047 then Float.ofBits 0x7FF0000000000000
  else Float.ofBits (((e + 1075).toNat * Nat.pow 2 52 + (s - Nat.pow 2 52)).toUInt64)

end CloudApi.Decimal.Binary
