import CloudApi.Time.Span
import CloudApi.Decimal.Binary

/-!
# Backoff

How long to wait before the next attempt of a request: any function of the attempt number and of
a sample from `[0, 1)` drawn for it. No backoff waits nothing; a fixed backoff waits the same each
time; an exponential backoff waits `initial · multiplier ^ attempt` milliseconds, at most `max`,
computed in doubles and cut toward zero to whole milliseconds (a NaN or negative delay is zero).
With jitter a quarter of the delay times the sample is added, again at most `max`.
-/

namespace CloudApi

/-- The smaller of two doubles; a NaN gives way to the other side. -/
def Float.minNum (a b : Float) : Float :=
  if a.isNaN then b else if b.isNaN then a else if a ≤ b then a else b

/-- `a ^ n` by squaring, multiplying in the bits of `n` from the lowest. -/
def Float.powNat (a : Float) (n : Nat) : Float :=
  go a n 1 n
where
  /-- The product so far is `r`; `fuel` bounds the halvings of `n`. -/
  go (a : Float) (n : Nat) (r : Float) : Nat → Float
    | 0 => r
    | fuel + 1 =>
      let r := if n % 2 = 1 then r * a else r
      let n := n / 2
      if n = 0 then r else go (a * a) n r fuel

/-- A double cut toward zero to a natural below `2^64`; NaN and negatives give zero. -/
def Float.truncSat (f : Float) : Nat := f.toUInt64.toNat

/-- How long to wait before a retry: a wait for each attempt number, given a sample from
`[0, 1)` drawn for it. -/
structure Backoff where
  wait : Nat → Float → Span
  deriving Inhabited

namespace Backoff

/-- No wait. -/
def none : Backoff := ⟨fun _ _ => ⟨0⟩⟩

/-- The same wait after every attempt. -/
def fixed (delay : Span) : Backoff := ⟨fun _ _ => delay⟩

/-- The largest exponent applied; attempts beyond it wait as it does. -/
def maxExponent : Nat := Nat.pow 2 31 - 1

/-- A wait of `initialMs · multiplier ^ attempt` milliseconds, at most `maxMs`, with a quarter of
it times the sample added when `jitter` is on, again at most `maxMs`. -/
def exponential (initialMs maxMs : Nat) (multiplier : Float) (jitter : Bool) : Backoff :=
  ⟨fun attempt sample =>
    let base := Decimal.Binary.nearest initialMs * Float.powNat multiplier (min attempt maxExponent)
    let cap := Decimal.Binary.nearest maxMs
    let capped := Float.minNum base cap
    let final := if jitter then Float.minNum (capped + sample * capped * 0.25) cap else capped
    Span.ofMillis (Float.truncSat final)⟩

/-- Exponential backoff from one second, doubling, at most thirty seconds, with jitter. -/
def standard : Backoff := .exponential 1000 30000 2 true

/-- The wait before retrying after attempt `attempt`; `sample` in `[0, 1)` draws the jitter. -/
def delay (b : Backoff) (attempt : Nat) (sample : Float := 0) : Span := b.wait attempt sample

end Backoff

end CloudApi
