import CloudApi.Json.Cursor
import CloudApi.Text.Utf8

/-!
# String literals

`scanString` reads a string literal from the offset after its opening quote. A control byte
(below `0x20`) is refused once it has been read; an escape is one of `\" \\ \/ \b \f \n \r \t`
or `\u` with four hex digits, where a leading surrogate must be followed at once by a `\u`
escape of a trailing one and a trailing surrogate may not stand alone. The bytes of the literal
must be UTF-8; that is checked after the closing quote.

`skipString` checks a literal without building it. It accepts lone surrogates, and it refuses
a control byte before reading it, so its fault is placed one column earlier.
-/

namespace CloudApi.Json

/-- Whether a byte ends a run of plain string bytes. -/
def isSpecial (b : UInt8) : Bool := b = 0x22 || b = 0x5C || b < 0x20

/-- The value of a hex digit byte. -/
def hexValue (b : UInt8) : Option Nat :=
  if 0x30 ≤ b ∧ b ≤ 0x39 then some (b.toNat - 0x30)
  else if 0x41 ≤ b ∧ b ≤ 0x46 then some (b.toNat - 0x41 + 10)
  else if 0x61 ≤ b ∧ b ≤ 0x66 then some (b.toNat - 0x61 + 10)
  else none

/-- The four hex digits of a `\u` escape from `i`, and the offset after them. -/
def hexEscape (bytes : ByteArray) (i : Nat) : Except Error (Nat × Nat) :=
  if i + 4 ≤ bytes.size then
    let digits := [bytes[i]!, bytes[i + 1]!, bytes[i + 2]!, bytes[i + 3]!].map hexValue
    match digits with
    | [some a, some b, some c, some d] => .ok (((a * 16 + b) * 16 + c) * 16 + d, i + 4)
    | _ => .error (faultAt bytes (i + 4) .invalidEscape)
  else .error (faultAt bytes bytes.size .eofString)

/-- The UTF-8 bytes of a code point. -/
def codePointBytes (n : Nat) : ByteArray := (String.singleton (Char.ofNat n)).toUTF8

/-- A `\u` escape whose four digits start at `i`: the bytes it stands for and its end. -/
def unicodeEscape (bytes : ByteArray) (i : Nat) : Except Error (ByteArray × Nat) := do
  let (n, j) ← hexEscape bytes i
  if 0xDC00 ≤ n ∧ n ≤ 0xDFFF then throw (faultAt bytes j .loneLeadingSurrogate)
  if n < 0xD800 ∨ n > 0xDBFF then return (codePointBytes n, j)
  match bytes[j]? with
  | none => throw (faultAt bytes j .eofString)
  | some 0x5C =>
    match bytes[j + 1]? with
    | none => throw (faultAt bytes (j + 1) .eofString)
    | some 0x75 =>
      let (n2, k) ← hexEscape bytes (j + 2)
      if n2 < 0xDC00 ∨ n2 > 0xDFFF then throw (faultAt bytes k .loneLeadingSurrogate)
      return (codePointBytes (((n - 0xD800) * 1024 + (n2 - 0xDC00)) + 0x10000), k)
    | some _ => throw (faultAt bytes (j + 2) .unexpectedEndOfEscape)
  | some _ => throw (faultAt bytes (j + 1) .unexpectedEndOfEscape)

/-- An escape whose letter is at `i`: the bytes it stands for and its end. -/
def escape (bytes : ByteArray) (i : Nat) : Except Error (ByteArray × Nat) :=
  match bytes[i]? with
  | none => .error (faultAt bytes i .eofString)
  | some c =>
    let one := fun (b : UInt8) => Except.ok (ByteArray.mk #[b], i + 1)
    match c with
    | 0x22 => one 0x22
    | 0x5C => one 0x5C
    | 0x2F => one 0x2F
    | 0x62 => one 0x08
    | 0x66 => one 0x0C
    | 0x6E => one 0x0A
    | 0x72 => one 0x0D
    | 0x74 => one 0x09
    | 0x75 => unicodeEscape bytes (i + 1)
    | _ => .error (faultAt bytes (i + 1) .invalidEscape)

/-- The rest of a string literal from `i`, its bytes so far in `acc`. -/
def stringFrom (bytes : ByteArray) (i : Nat) (acc : ByteArray) : Except Error (String × Nat) :=
  if h : i < bytes.size then
    let b := bytes[i]
    if b = 0x22 then
      match Utf8.decode? acc with
      | .ok s => .ok (s, i + 1)
      | .error _ => .error (faultAt bytes (i + 1) .invalidCodePoint)
    else if b = 0x5C then
      match escape bytes (i + 1) with
      -- an escape ends past its backslash; `max` keeps that visible to the termination check
      | .ok (chunk, j) => stringFrom bytes (max j (i + 1)) (acc ++ chunk)
      | .error e => .error e
    else if b < 0x20 then .error (faultAt bytes (i + 1) .controlCharacter)
    else stringFrom bytes (i + 1) (acc.push b)
  else .error (faultAt bytes bytes.size .eofString)
termination_by bytes.size - i

/-- A string literal from the offset after its opening quote, and the offset after its end. -/
def scanString (bytes : ByteArray) (i : Nat) : Except Error (String × Nat) :=
  stringFrom bytes i ByteArray.empty

/-- Checks an escape whose letter is at `i` and returns its end. -/
def skipEscape (bytes : ByteArray) (i : Nat) : Except Error Nat :=
  match bytes[i]? with
  | none => .error (faultAt bytes i .eofString)
  | some c =>
    if c = 0x22 ∨ c = 0x5C ∨ c = 0x2F ∨ c = 0x62 ∨ c = 0x66 ∨ c = 0x6E ∨ c = 0x72 ∨ c = 0x74 then
      .ok (i + 1)
    else if c = 0x75 then (hexEscape bytes (i + 1)).map (·.2)
    else .error (faultAt bytes (i + 1) .invalidEscape)

/-- Checks the rest of a string literal from `i` and returns the offset after its end. -/
def skipFrom (bytes : ByteArray) (i : Nat) : Except Error (Unit × Nat) :=
  if h : i < bytes.size then
    let b := bytes[i]
    if b = 0x22 then .ok ((), i + 1)
    else if b = 0x5C then
      match skipEscape bytes (i + 1) with
      | .ok j => skipFrom bytes (max j (i + 1))
      | .error e => .error e
    else if b < 0x20 then .error (faultAt bytes i .controlCharacter)
    else skipFrom bytes (i + 1)
  else .error (faultAt bytes bytes.size .eofString)
termination_by bytes.size - i

/-- Checks a string literal from the offset after its opening quote. -/
def skipString (bytes : ByteArray) (i : Nat) : Except Error (Unit × Nat) := skipFrom bytes i

end CloudApi.Json
