import CloudApi.Text.Blank

/-!
# Timestamps

A `Stamp` is a date and time of day without a zone, as the API writes them:
`2024-05-01T10:00:00`, optionally with a fraction of a second. `Stamp.parse` reads that form:
a year of up to four digits, or a signed one of any length; two-digit month, day, hour, minute
and second, each checked against its range as it is read (a second of 60 is a leap second); and a
fraction of one to nine digits, further digits being ignored. White space is skipped before
every number, before every separator and at the end, but not before the fraction. The date must exist in the proleptic Gregorian calendar, within the years
-262143 to 262142. `Stamp.render` writes the year with four digits, or with its sign when it
has more, and the fraction as 3, 6 or 9 digits, as few as hold it.
-/

namespace CloudApi

/-- Why a text is not a timestamp. -/
inductive StampFault where
  | tooShort
  | invalid
  | outOfRange
  | tooLong
  deriving Repr, BEq, Inhabited

/-- The text of a fault. -/
def StampFault.message : StampFault → String
  | .tooShort => "premature end of input"
  | .invalid => "input contains invalid characters"
  | .outOfRange => "input is out of range"
  | .tooLong => "trailing input"

/-- A date and time of day without a zone; `nano` reaches past a second only in a leap second. -/
structure Stamp where
  year : Int
  month : Nat
  day : Nat
  hour : Nat
  minute : Nat
  second : Nat
  nano : Nat
  deriving Repr, BEq, DecidableEq, Inhabited

namespace Stamp

/-- Whether a year of the proleptic Gregorian calendar has 29 February. -/
def leapYear (y : Int) : Bool := (y % 4 = 0 ∧ y % 100 ≠ 0) ∨ y % 400 = 0

/-- The number of days of a month. -/
def monthDays (y : Int) (m : Nat) : Nat :=
  if m = 2 then (if leapYear y then 29 else 28)
  else if m = 4 ∨ m = 6 ∨ m = 9 ∨ m = 11 then 30 else 31

/-- Reading a timestamp. -/
abbrev Scan := StateT (List Char) (Except StampFault)

/-- Skip white space. -/
def space : Scan Unit := modify Text.dropBlank

/-- A run of `min` to `max` ASCII digits, the value kept within 63 bits. -/
def digits (min max : Nat) : Scan Nat := fun s => do
  if s.isEmpty ∧ min > 0 then throw .tooShort
  let ds := (s.take max).takeWhile Char.isDigit
  if ds.length < min then throw .invalid
  let v : Nat := ds.foldl (fun acc c => acc * 10 + (c.toNat - 48)) 0
  if v ≥ Nat.pow 2 63 then throw .outOfRange
  pure (v, s.drop ds.length)

/-- A number after optional white space, checked against a range. -/
def field (width lo hi : Nat) : Scan Nat := do
  space
  let v ← digits 1 width
  if v < lo ∨ v > hi then throw .outOfRange
  pure v

/-- The year: four digits, or a sign and any number of digits. -/
def yearField : Scan Int := do
  space
  match (← get) with
  | '-' :: rest => set rest; let v ← digits 1 (rest.length + 1); pure (-(v : Int))
  | '+' :: rest => set rest; let v ← digits 1 (rest.length + 1); pure (v : Int)
  | _ => let v ← digits 1 4; pure (v : Int)

/-- A literal character. -/
def literal (c : Char) : Scan Unit := fun s =>
  match s with
  | [] => .error .tooShort
  | d :: rest => if d = c then .ok ((), rest) else .error .invalid

/-- The fraction of a second, if a point follows the seconds, in nanoseconds. -/
def fraction : Scan Nat := do
  match (← get) with
  | '.' :: rest =>
    set rest
    let before := rest.length
    let v ← digits 1 9
    let used := before - (← get).length
    modify fun s => s.dropWhile Char.isDigit
    pure (v * Nat.pow 10 (9 - used))
  | _ => pure 0

/-- The fields of a timestamp in order. -/
def fields : Scan Stamp := do
  let year ← yearField
  if year < -Int.pow 2 31 ∨ year ≥ Int.pow 2 31 then throw .outOfRange
  space
  literal '-'
  let month ← field 2 1 12
  space
  literal '-'
  let day ← field 2 1 31
  space
  literal 'T'
  let hour ← field 2 0 23
  space
  literal ':'
  let minute ← field 2 0 59
  space
  literal ':'
  let second ← field 2 0 60
  let nano ← fraction
  space
  pure ⟨year, month, day, hour, minute, second, nano⟩

/-- The timestamp a text holds. -/
def parse (s : String) : Except StampFault Stamp := do
  let (st, rest) ← fields.run s.toList
  if !rest.isEmpty then throw .tooLong
  if st.year < -262143 ∨ st.year > 262142 ∨ st.day > monthDays st.year st.month then
    throw .outOfRange
  if st.second = 60 then pure { st with second := 59, nano := st.nano + 1000000000 }
  else pure st

/-- `n` with at least `w` digits. -/
def padded (w n : Nat) : String :=
  let s := toString n
  String.ofList (List.replicate (w - s.length) '0') ++ s

/-- The text of a timestamp. -/
def render (t : Stamp) : String :=
  let year :=
    if 0 ≤ t.year ∧ t.year ≤ 9999 then padded 4 t.year.toNat
    else (if t.year < 0 then "-" else "+") ++ padded 4 t.year.natAbs
  let (second, nano) := if t.nano ≥ 1000000000 then (t.second + 1, t.nano - 1000000000)
    else (t.second, t.nano)
  let frac :=
    if nano = 0 then ""
    else if nano % 1000000 = 0 then "." ++ padded 3 (nano / 1000000)
    else if nano % 1000 = 0 then "." ++ padded 6 (nano / 1000)
    else "." ++ padded 9 nano
  year ++ "-" ++ padded 2 t.month ++ "-" ++ padded 2 t.day ++ "T" ++ padded 2 t.hour ++ ":" ++
    padded 2 t.minute ++ ":" ++ padded 2 second ++ frac

/-- The fields of a timestamp from the largest unit down. -/
def key (t : Stamp) : List Int :=
  [t.year, t.month, t.day, t.hour, t.minute, t.second, t.nano]

/-- Lexicographic order on keys of one length. -/
def keyLe : List Int → List Int → Bool
  | a :: as, b :: bs => a < b || (a == b && keyLe as bs)
  | _, _ => true

/-- Whether `a` is not later than `b`: by date, then time of day. -/
def le (a b : Stamp) : Bool := keyLe a.key b.key

end Stamp

end CloudApi
