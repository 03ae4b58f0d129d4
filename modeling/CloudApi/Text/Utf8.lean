/-!
# UTF-8 octets

`Utf8.pieces` cuts an octet string into characters and bad sequences, each bad sequence as long
as the longest prefix of a well-formed one that it starts with. `Utf8.decode?` reads the octets
strictly and reports the first bad sequence; `Utf8.decodeLossy` puts U+FFFD in place of each.

`Utf8.truncateBytes` cuts a text to a budget of bytes: a text that fits is kept whole, and
otherwise the cut steps back one byte at a time from the budget to the nearest character
boundary (`Utf8.boundaryAtOrBelow`).
-/

namespace CloudApi.Utf8

/-- A piece of an octet string: a character, a bad sequence of that many octets, or a sequence
that the end of the input cuts short. -/
inductive Piece where
  | char (c : Char)
  | bad (length : Nat)
  | cut
  deriving Repr, BEq, Inhabited

/-- The octets allowed second after a lead octet, with the length of the sequence it starts. -/
def lead (b : Nat) : Option (Nat × Nat × Nat) :=
  if 0xC2 ≤ b ∧ b ≤ 0xDF then some (2, 0x80, 0xBF)
  else if b = 0xE0 then some (3, 0xA0, 0xBF)
  else if 0xE1 ≤ b ∧ b ≤ 0xEC then some (3, 0x80, 0xBF)
  else if b = 0xED then some (3, 0x80, 0x9F)
  else if 0xEE ≤ b ∧ b ≤ 0xEF then some (3, 0x80, 0xBF)
  else if b = 0xF0 then some (4, 0x90, 0xBF)
  else if 0xF1 ≤ b ∧ b ≤ 0xF3 then some (4, 0x80, 0xBF)
  else if b = 0xF4 then some (4, 0x80, 0x8F)
  else none

/-- A continuation octet carries six bits and has the form `10xxxxxx`. -/
def isCont (b : UInt8) : Bool := 0x80 ≤ b && b ≤ 0xBF

/-- The six payload bits of a continuation octet. -/
def low (b : UInt8) : Nat := b.toNat % 64

/-- The pieces of an octet string, in order. -/
def pieces : List UInt8 → List Piece
  | [] => []
  | b :: rest =>
    if b < 0x80 then .char (Char.ofNat b.toNat) :: pieces rest
    else match lead b.toNat with
      | none => .bad 1 :: pieces rest
      | some (w, lo, hi) =>
        match rest with
        | [] => [.cut]
        | c1 :: r1 =>
          if !(lo ≤ c1.toNat && c1.toNat ≤ hi) then .bad 1 :: pieces (c1 :: r1)
          else if w = 2 then .char (Char.ofNat ((b.toNat % 32) * 64 + low c1)) :: pieces r1
          else match r1 with
            | [] => [.cut]
            | c2 :: r2 =>
              if !isCont c2 then .bad 2 :: pieces (c2 :: r2)
              else if w = 3 then
                .char (Char.ofNat ((b.toNat % 16) * 4096 + low c1 * 64 + low c2)) :: pieces r2
              else match r2 with
                | [] => [.cut]
                | c3 :: r3 =>
                  if !isCont c3 then .bad 3 :: pieces (c3 :: r3)
                  else .char (Char.ofNat ((b.toNat % 8) * 262144 + low c1 * 4096 + low c2 * 64
                    + low c3)) :: pieces r3

/-- The first bad sequence of an octet string: the offset where it starts, and its length, or
`none` when the input ends inside it. -/
structure Fault where
  validUpTo : Nat
  length : Option Nat
  deriving Repr, BEq, Inhabited

/-- How a bad sequence is reported. -/
def Fault.message (f : Fault) : String :=
  match f.length with
  | some n => s!"invalid utf-8 sequence of {n} bytes from index {f.validUpTo}"
  | none => s!"incomplete utf-8 byte sequence from index {f.validUpTo}"

/-- Joins pieces into text, or stops at the first bad one; `at` is the offset of the first. -/
def strict (at_ : Nat) (acc : String) : List Piece → Except Fault String
  | [] => .ok acc
  | .char c :: ps => strict (at_ + c.utf8Size) (acc.push c) ps
  | .bad n :: _ => .error ⟨at_, some n⟩
  | .cut :: _ => .error ⟨at_, none⟩

/-- The text an octet string encodes, or its first bad sequence. -/
def decode? (bytes : ByteArray) : Except Fault String :=
  strict 0 "" (pieces bytes.toList)

/-- The text of an octet string with U+FFFD in place of each bad sequence. -/
def decodeLossy (bytes : ByteArray) : String :=
  (pieces bytes.toList).foldl (fun acc p =>
    match p with
    | .char c => acc.push c
    | _ => acc.push '�') ""

/-- The nearest character boundary of `s` at or below byte `i`, found by stepping back one byte
at a time from `i`; `none` when a step would go below byte 0. -/
def boundaryAtOrBelow (s : String) : Nat → Option s.Pos
  | 0 => if h : (0 : String.Pos.Raw).IsValid s then some ⟨0, h⟩ else none
  | i + 1 =>
    if h : (⟨i + 1⟩ : String.Pos.Raw).IsValid s then some ⟨⟨i + 1⟩, h⟩ else boundaryAtOrBelow s i

/-- A text cut to at most `max` bytes on a character boundary: the whole text when it fits, else
the text up to the boundary found stepping back from byte `max`. -/
def truncateBytes (s : String) (max : Nat) : String :=
  if s.utf8ByteSize ≤ max then s
  else match boundaryAtOrBelow s max with
    | some e => s.extract s.startPos e
    -- a step below byte 0, which never comes: byte 0 is a boundary
    | none => ""

end CloudApi.Utf8
