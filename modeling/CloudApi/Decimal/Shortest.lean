/-!
# Shortest decimals of doubles

`Shortest.ofFloat` writes a finite positive double `m · 2^q` as `d · 10^k` with the fewest digits
that still read back as the same double, and of those the nearest to it. The search runs in exact
`Nat` arithmetic over the interval of reals that round to the double: its ends belong to it when
`m` is even, since a tie then rounds to `m`.
-/

namespace CloudApi.Decimal

/-- A decimal `digits · 10^exponent`. -/
structure Scientific where
  digits : Nat
  exponent : Int
  deriving Repr, BEq, Inhabited

/-- The significand and binary exponent of a finite double from its bits, `m · 2^q`. -/
def binaryOfBits (bits : UInt64) : Nat × Int :=
  let frac := (bits &&& 0xFFFFFFFFFFFFF).toNat
  let e := ((bits >>> 52) &&& 0x7FF).toNat
  if e = 0 then (frac, -1074) else (frac + Nat.pow 2 52, (e : Int) - 1075)

/-- The rounding interval of `m · 2^q`, in units of `2^(q-2)`: lower end, value, upper end.
The gap below is half as wide when `m` is the least significand of its binade. -/
def interval (m : Nat) (q : Int) : Nat × Nat × Nat :=
  let narrowBelow := m = Nat.pow 2 52 ∧ q > -1074
  (4 * m - (if narrowBelow then 1 else 2), 4 * m, 4 * m + 2)

/-- `n · 2^u` as a fraction of naturals. -/
def fraction (n : Nat) (u : Int) : Nat × Nat :=
  if 0 ≤ u then (n * Nat.pow 2 u.toNat, 1) else (n, Nat.pow 2 (-u).toNat)

/-- `10^k` as a fraction of naturals. -/
def tenPow (k : Int) : Nat × Nat :=
  if 0 ≤ k then (Nat.pow 10 k.toNat, 1) else (1, Nat.pow 10 (-k).toNat)

/-- The multiples `d · 10^k` that lie in the interval from `lo` to `hi` (fractions over a common
denominator `den`), as the least and greatest `d`; `closed` says whether the ends belong. -/
def multiples (lo hi den : Nat) (closed : Bool) (k : Int) : Nat × Nat :=
  let (p, s) := tenPow k
  let a := lo * s
  let b := hi * s
  let unit := p * den
  let least := if closed then (a + unit - 1) / unit else a / unit + 1
  let greatest := if closed then b / unit else if b % unit = 0 then b / unit - 1 else b / unit
  (least, greatest)

/-- A bound on `⌊log10 (n · 2^u)⌋` from above by at most two. -/
def log10Above (n : Nat) (u : Int) : Int :=
  ((Nat.log2 n : Int) + u + 1) * 78913 / 262144 + 1

/-- The grid `10^k` searched downward from `k` for the first one with a multiple in the interval;
`fuel` bounds the number of grids. -/
def coarsest (lo hi den : Nat) (closed : Bool) : Int → Nat → Option (Int × Nat × Nat)
  | _, 0 => none
  | k, fuel + 1 =>
    let (least, greatest) := multiples lo hi den closed k
    if least ≤ greatest ∧ 0 < greatest then some (k, least, greatest)
    else coarsest lo hi den closed (k - 1) fuel

/-- Of the multiples from `least` to `greatest` of `10^k`, the one nearest to `v / den`; an exact
tie goes to the even one. -/
def nearest (v den : Nat) (k : Int) (least greatest : Nat) : Nat :=
  let (p, s) := tenPow k
  let unit := p * den
  let below := v * s / unit
  let rem := v * s % unit
  let near := if 2 * rem < unit then below
    else if 2 * rem > unit then below + 1
    else if below % 2 = 0 then below else below + 1
  if near < least then least else if near > greatest then greatest else near

/-- The shortest decimal of `m · 2^q` that reads back as it, for `m > 0`. -/
def Shortest.ofBinary (m : Nat) (q : Int) : Scientific :=
  let (l, v, h) := interval m q
  let u := q - 2
  let den := (fraction 1 u).2
  let (lo, _) := fraction l u
  let (val, _) := fraction v u
  let (hi, _) := fraction h u
  let closed := m % 2 = 0
  match coarsest lo hi den closed (log10Above h u) 64 with
  | some (k, least, greatest) => ⟨nearest val den k least greatest, k⟩
  | none => ⟨m, 0⟩

/-- The shortest decimal of the magnitude of a finite nonzero double. -/
def Shortest.ofFloat (f : Float) : Scientific :=
  let (m, q) := binaryOfBits f.toBits
  Shortest.ofBinary m q

end CloudApi.Decimal
