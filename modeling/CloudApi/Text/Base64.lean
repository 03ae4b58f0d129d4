/-!
# Base64

`Base64.decode` reads the standard alphabet with canonical padding: the text is a whole number of
four-symbol groups, the last one padded with `=` to four, and the bits a last symbol carries past
the final byte are zero. All groups but the last are decoded first, then the last; the first fault
met is reported, with the offset and value of the byte at fault where it has one.
-/

namespace CloudApi.Base64

/-- Why a text is not base64. -/
inductive Fault where
  | invalidByte (offset : Nat) (byte : UInt8)
  | invalidLength (length : Nat)
  | invalidLastSymbol (offset : Nat) (byte : UInt8)
  | invalidPadding
  deriving Repr, BEq, Inhabited

/-- The text of a fault. -/
def Fault.message : Fault → String
  | .invalidByte i b => "Invalid symbol " ++ toString b.toNat ++ ", offset " ++ toString i ++ "."
  | .invalidLength n => "Invalid input length: " ++ toString n
  | .invalidLastSymbol i b =>
    "Invalid last symbol " ++ toString b.toNat ++ ", offset " ++ toString i ++ "."
  | .invalidPadding => "Invalid padding"

/-- The padding byte `=`. -/
def pad : UInt8 := 0x3D

/-- The six bits a symbol of the standard alphabet stands for. -/
def symbol (b : UInt8) : Option Nat :=
  let n := b.toNat
  if 0x41 ≤ n ∧ n ≤ 0x5A then some (n - 0x41)
  else if 0x61 ≤ n ∧ n ≤ 0x7A then some (n - 0x61 + 26)
  else if 0x30 ≤ n ∧ n ≤ 0x39 then some (n - 0x30 + 52)
  else if n = 0x2B then some 62
  else if n = 0x2F then some 63
  else none

/-- The three bytes of a group of four symbol values. -/
def groupBytes (a b c d : Nat) : List UInt8 :=
  let n := ((a * 64 + b) * 64 + c) * 64 + d
  [(n / 65536 % 256).toUInt8, (n / 256 % 256).toUInt8, (n % 256).toUInt8]

/-- Decodes whole groups from offset `at`, none of them padded. -/
def groups (at_ : Nat) : List UInt8 → Except Fault (List UInt8)
  | a :: b :: c :: d :: rest =>
    match symbol a, symbol b, symbol c, symbol d with
    | some x, some y, some z, some w => do
      let tail ← groups (at_ + 4) rest
      pure (groupBytes x y z w ++ tail)
    | none, _, _, _ => .error (.invalidByte at_ a)
    | _, none, _, _ => .error (.invalidByte (at_ + 1) b)
    | _, _, none, _ => .error (.invalidByte (at_ + 2) c)
    | _, _, _, none => .error (.invalidByte (at_ + 3) d)
  | _ => .ok []

/-- What the last group holds: symbol values, the padding, and its first offset in the group. -/
structure Suffix where
  values : List Nat := []
  padding : Nat := 0
  firstPad : Nat := 0
  lastSymbol : UInt8 := 0

/-- Reads the last group, at most four bytes from offset `at`. -/
def suffixFrom (at_ : Nat) : Nat → List UInt8 → Suffix → Except Fault Suffix
  | _, [], s => .ok s
  | i, b :: rest, s =>
    if b = pad then
      if i < 2 then .error (.invalidByte (at_ + i) b)
      else suffixFrom at_ (i + 1) rest
        { s with padding := s.padding + 1, firstPad := if s.padding = 0 then i else s.firstPad }
    else if s.padding > 0 then .error (.invalidByte (at_ + s.firstPad) pad)
    else match symbol b with
      | some v => suffixFrom at_ (i + 1) rest { s with values := s.values ++ [v], lastSymbol := b }
      | none => .error (.invalidByte (at_ + i) b)

/-- The bytes of the last group, checking its length, padding and unused bits. -/
def suffixBytes (at_ : Nat) (nonEmpty : Bool) (s : Suffix) : Except Fault (List UInt8) :=
  let k := s.values.length
  if nonEmpty ∧ k < 2 then .error (.invalidLength (at_ + k))
  else if (s.padding + k) % 4 ≠ 0 then .error .invalidPadding
  else
    let vs := s.values ++ List.replicate (4 - k) 0
    let n := vs.foldl (fun acc v => acc * 64 + v) 0
    let keep := k * 6 / 8
    let unused := 24 - keep * 8
    if n % Nat.pow 2 unused ≠ 0 then .error (.invalidLastSymbol (at_ + k - 1) s.lastSymbol)
    else .ok ((groupBytes' n).take keep)
where
  /-- The three bytes of a 24-bit number. -/
  groupBytes' (n : Nat) : List UInt8 :=
    [(n / 65536 % 256).toUInt8, (n / 256 % 256).toUInt8, (n % 256).toUInt8]

/-- The bytes a base64 text stands for. -/
def decode (s : String) : Except Fault ByteArray := do
  let input := s.toUTF8.toList
  let len := input.length
  let rem := len % 4
  if rem = 1 then
    let last := input.getLast?.getD 0
    if last ≠ pad ∧ (symbol last).isNone then throw (.invalidByte (len - 1) last)
  let body := len - rem - (if rem = 0 then 4 else 0)
  let front ← groups 0 (input.take body)
  let s ← suffixFrom body 0 (input.drop body) {}
  let back ← suffixBytes body (len > 0) s
  pure (ByteArray.mk (front ++ back).toArray)

end CloudApi.Base64
