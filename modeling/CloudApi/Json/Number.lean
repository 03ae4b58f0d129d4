import CloudApi.Json.Cursor
import CloudApi.Decimal.Binary

/-!
# Number literals

`scanNumber` reads a number literal from the offset of its first digit, its sign already read.
An integer is kept as one while it fits 64 bits: unsigned when positive, signed when negative
(down to `-2^63`); `-0` and integers that do not fit become doubles. A literal with a fraction
or an exponent becomes a double: its first 19 or 20 significant digits, as many as fit below
`2^64`, are taken as an integer and scaled by the power of ten, once by multiplying or dividing by
the nearest double to that power, and digits beyond them only move the exponent. A power above
`10^308` is reached by dividing by `10^308` until it is in range or the value is zero; a
positive exponent whose result is infinite is out of range.

`skipNumber` checks the grammar of a literal without computing its value.
-/

namespace CloudApi.Json

open Decimal

/-- The largest 64-bit unsigned integer. -/
def u64Max : Nat := Nat.pow 2 64 - 1

/-- Saturates an exponent into 32 signed bits. -/
def clampExp (e : Int) : Int := max (-Int.pow 2 31) (min (Int.pow 2 31 - 1) e)

/-- The byte at an offset, or NUL past the end. -/
def byteAt (bytes : ByteArray) (i : Nat) : UInt8 := (bytes[i]?).getD 0

/-- The value of a decimal digit byte. -/
def digitValue (b : UInt8) : Nat := b.toNat - 48

/-- `±sig · 10^exp` as a double, computed as described above; errors are placed at `at`. -/
def fromParts (bytes : ByteArray) (at_ : Nat) (positive : Bool) (f : Float) (exp : Int) :
    Except Error Float :=
  if exp.natAbs ≤ 308 then
    if 0 ≤ exp then
      let g := f * Binary.tenPow exp.natAbs
      if g.isInf then .error (faultAt bytes at_ .numberOutOfRange)
      else .ok (if positive then g else -g)
    else
      let g := f / Binary.tenPow exp.natAbs
      .ok (if positive then g else -g)
  else if f == 0 then .ok (if positive then f else -f)
  else if 0 ≤ exp then .error (faultAt bytes at_ .numberOutOfRange)
  else fromParts bytes at_ positive (f / Binary.tenPow 308) (exp + 308)
termination_by exp.natAbs
decreasing_by omega

/-- A double from a significand and exponent, placed at `at` on error. -/
def floatOf (bytes : ByteArray) (at_ : Nat) (positive : Bool) (sig : Nat) (exp : Int) :
    Except Error (Number × Nat) :=
  (fromParts bytes at_ positive (Binary.nearest sig) exp).map fun f => (.float f, at_)

/-- Digits after an exponent that no longer fit: an error unless the value is zero anyway. -/
def exponentOverflow (bytes : ByteArray) (i : Nat) (positive zeroSig positiveExp : Bool) :
    Except Error (Number × Nat) :=
  if !zeroSig && positiveExp then .error (faultAt bytes i .numberOutOfRange)
  else .ok (.float (if positive then 0 else -0), skipWhile isDigit bytes i)

/-- The digits of an exponent from `i`, accumulated into `exp` while it fits 32 signed bits. -/
def exponentDigits (bytes : ByteArray) (positive : Bool) (sig : Nat) (start : Int)
    (positiveExp : Bool) (i : Nat) (exp : Nat) : Except Error (Number × Nat) :=
  if h : i < bytes.size then
    let b := bytes[i]
    if isDigit b then
      let e := exp * 10 + digitValue b
      if e > Nat.pow 2 31 - 1 then exponentOverflow bytes (i + 1) positive (sig = 0) positiveExp
      else exponentDigits bytes positive sig start positiveExp (i + 1) e
    else
      floatOf bytes i positive sig (clampExp (if positiveExp then start + exp else start - exp))
  else floatOf bytes i positive sig (clampExp (if positiveExp then start + exp else start - exp))
termination_by bytes.size - i

/-- An exponent part, from the offset of its `e` or `E`. -/
def exponentPart (bytes : ByteArray) (positive : Bool) (sig : Nat) (start : Int) (i : Nat) :
    Except Error (Number × Nat) :=
  let j := i + 1
  let (positiveExp, p) :=
    match bytes[j]? with
    | some 0x2B => (true, j + 1)
    | some 0x2D => (false, j + 1)
    | _ => (true, j)
  match bytes[p]? with
  | none => .error (faultAt bytes p .eofValue)
  | some b =>
    if isDigit b then exponentDigits bytes positive sig start positiveExp (p + 1) (digitValue b)
    else .error (faultAt bytes (p + 1) .invalidNumber)

/-- What follows a mantissa at `i`: an exponent part, or the end of the literal. -/
def afterMantissa (bytes : ByteArray) (positive : Bool) (sig : Nat) (exp : Int) (i : Nat) :
    Except Error (Number × Nat) :=
  match byteAt bytes i with
  | 0x65 | 0x45 => exponentPart bytes positive sig exp i
  | _ => floatOf bytes i positive sig exp

/-- The digits of a fraction from `i`; `taken` counts those already in `sig`. -/
def fractionDigits (bytes : ByteArray) (positive : Bool) (exp0 : Int) (i : Nat) (sig taken : Nat) :
    Except Error (Number × Nat) :=
  if h : i < bytes.size then
    let b := bytes[i]
    if isDigit b then
      let s := sig * 10 + digitValue b
      if s > u64Max then
        afterMantissa bytes positive sig (exp0 - taken) (skipWhile isDigit bytes i)
      else fractionDigits bytes positive exp0 (i + 1) s (taken + 1)
    else if taken = 0 then .error (faultAt bytes (min bytes.size (i + 1)) .invalidNumber)
    else afterMantissa bytes positive sig (exp0 - taken) i
  else if taken = 0 then .error (faultAt bytes bytes.size .eofValue)
  else afterMantissa bytes positive sig (exp0 - taken) i
termination_by bytes.size - i

/-- What follows the integer digits at `i`: a fraction, an exponent, or the end of an integer. -/
def afterInteger (bytes : ByteArray) (positive : Bool) (sig : Nat) (exp : Int) (long : Bool)
    (i : Nat) : Except Error (Number × Nat) :=
  match byteAt bytes i with
  | 0x2E => fractionDigits bytes positive exp (i + 1) sig 0
  | 0x65 | 0x45 => exponentPart bytes positive sig exp i
  | _ =>
    if long then floatOf bytes i positive sig exp
    else if positive then .ok (.nat sig, i)
    else if sig = 0 then .ok (.float (-0), i)
    else if sig ≤ Nat.pow 2 63 then .ok (.neg (-(sig : Int)), i)
    else .ok (.float (-(Binary.nearest sig)), i)

/-- The integer digits from `i` after a leading nonzero digit, kept in `sig` while it fits. -/
def integerDigits (bytes : ByteArray) (positive : Bool) (i : Nat) (sig : Nat) :
    Except Error (Number × Nat) :=
  if h : i < bytes.size then
    let b := bytes[i]
    if isDigit b then
      let s := sig * 10 + digitValue b
      if s > u64Max then
        let j := skipWhile isDigit bytes i
        afterInteger bytes positive sig (j - i : Nat) true j
      else integerDigits bytes positive (i + 1) s
    else afterInteger bytes positive sig 0 false i
  else afterInteger bytes positive sig 0 false i
termination_by bytes.size - i

/-- A number literal from the offset of its first digit; `positive` is false after a minus. -/
def scanNumber (positive : Bool) (bytes : ByteArray) (i : Nat) : Except Error (Number × Nat) :=
  match bytes[i]? with
  | none => .error (faultAt bytes i .eofValue)
  | some 0x30 =>
    if isDigit (byteAt bytes (i + 1)) then
      .error (faultAt bytes (min bytes.size (i + 2)) .invalidNumber)
    else afterInteger bytes positive 0 0 false (i + 1)
  | some b =>
    if isDigit b then integerDigits bytes positive (i + 1) (digitValue b)
    else .error (faultAt bytes (i + 1) .invalidNumber)

/-! ### Skipping a literal -/

/-- Checks an exponent part from the offset of its `e` or `E`. -/
def skipExponent (bytes : ByteArray) (i : Nat) : Except Error Nat :=
  let j := i + 1
  let p := match bytes[j]? with
    | some 0x2B | some 0x2D => j + 1
    | _ => j
  match bytes[p]? with
  | some b => if isDigit b then .ok (skipWhile isDigit bytes (p + 1))
      else .error (faultAt bytes (p + 1) .invalidNumber)
  | none => .error (faultAt bytes p .invalidNumber)

/-- Checks what follows the integer digits of a literal at `i`. -/
def skipAfterInteger (bytes : ByteArray) (i : Nat) : Except Error Nat :=
  match byteAt bytes i with
  | 0x2E =>
    let j := skipWhile isDigit bytes (i + 1)
    if j = i + 1 then .error (faultAt bytes (min bytes.size (j + 1)) .invalidNumber)
    else match byteAt bytes j with
      | 0x65 | 0x45 => skipExponent bytes j
      | _ => .ok j
  | 0x65 | 0x45 => skipExponent bytes i
  | _ => .ok i

/-- Checks a number literal from the offset of its first digit, its sign already read. -/
def skipNumber (bytes : ByteArray) (i : Nat) : Except Error (Unit × Nat) :=
  let r : Except Error Nat := match bytes[i]? with
    | some 0x30 =>
      if isDigit (byteAt bytes (i + 1)) then
        .error (faultAt bytes (min bytes.size (i + 2)) .invalidNumber)
      else skipAfterInteger bytes (i + 1)
    | some b =>
      if 0x31 ≤ b && b ≤ 0x39 then skipAfterInteger bytes (skipWhile isDigit bytes (i + 1))
      else .error (faultAt bytes (i + 1) .invalidNumber)
    | none => .error (faultAt bytes i .invalidNumber)
  r.map fun j => ((), j)

end CloudApi.Json
