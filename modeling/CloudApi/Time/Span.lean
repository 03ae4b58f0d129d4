/-!
# Spans of time

A `Span` is a length of time in nanoseconds. `Span.text` writes it in the largest of the units
s, ms, µs and ns in which it is at least one, with the exact fraction and no trailing zeros:
`1.5s`, `999.999999ms`, `0ns`.
-/

namespace CloudApi

/-- A length of time in nanoseconds. -/
structure Span where
  nanos : Nat
  deriving Repr, BEq, DecidableEq, Inhabited, Ord

namespace Span

/-- The span of `ms` milliseconds. -/
def ofMillis (ms : Nat) : Span := ⟨ms * 1000000⟩

/-- The span of `s` seconds. -/
def ofSecs (s : Nat) : Span := ⟨s * 1000000000⟩

/-- Whole seconds. -/
def secs (d : Span) : Nat := d.nanos / 1000000000

/-- Nanoseconds past the whole seconds. -/
def subsecNanos (d : Span) : Nat := d.nanos % 1000000000

/-- Whole milliseconds. -/
def millis (d : Span) : Nat := d.nanos / 1000000

instance : LE Span := ⟨fun a b => a.nanos ≤ b.nanos⟩
instance : LT Span := ⟨fun a b => a.nanos < b.nanos⟩
instance (a b : Span) : Decidable (a ≤ b) := inferInstanceAs (Decidable (a.nanos ≤ b.nanos))
instance (a b : Span) : Decidable (a < b) := inferInstanceAs (Decidable (a.nanos < b.nanos))
instance : Add Span := ⟨fun a b => ⟨a.nanos + b.nanos⟩⟩
instance : Sub Span := ⟨fun a b => ⟨a.nanos - b.nanos⟩⟩

/-- The shorter of two spans. -/
def min (a b : Span) : Span := if a ≤ b then a else b

/-- The digits of a fraction `frac / unit` without trailing zeros, empty for zero. -/
def fractionDigits (frac unit : Nat) : String :=
  if frac = 0 then "" else
  let width := (toString unit).length - 1
  let s := toString frac
  let full := String.ofList (List.replicate (width - s.length) '0') ++ s
  "." ++ String.ofList (full.toList.reverse.dropWhile (· == '0')).reverse

/-- The text of a span in its largest unit. -/
def text (d : Span) : String :=
  let s := d.secs
  let n := d.subsecNanos
  if s > 0 then toString s ++ fractionDigits n 1000000000 ++ "s"
  else if n ≥ 1000000 then toString (n / 1000000) ++ fractionDigits (n % 1000000) 1000000 ++ "ms"
  else if n ≥ 1000 then toString (n / 1000) ++ fractionDigits (n % 1000) 1000 ++ "µs"
  else toString n ++ "ns"

end Span

end CloudApi
