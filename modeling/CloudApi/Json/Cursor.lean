import CloudApi.Json.Error

/-!
# Reading JSON text

A `Cursor` is JSON text being read: its bytes, the offset of the next byte, and how many more
arrays and objects may still open before the nesting limit of 128 is reached. `Reader` is the
monad of reading; an error keeps the cursor where reading stopped, which is what gives a problem
raised by a typed decoder its place (`Reader.placing`).

Places are reported as a line, counted from 1, and a column: the number of bytes between the
last line feed before the offset and the offset. A fault `here` is placed at the next byte's
offset; a fault `ahead` one byte further, but never past the end.
-/

namespace CloudApi.Json

/-- JSON text being read. -/
structure Cursor where
  bytes : ByteArray
  pos : Nat := 0
  depth : Nat := 128

/-- Reading JSON text. -/
abbrev Reader := ExceptT Error (StateM Cursor)

/-- The line and column of an offset of a text. -/
def placeOf (bytes : ByteArray) (i : Nat) : Nat × Nat :=
  let (lines, lineStart, _) := (bytes.extract 0 i).foldl
    (fun (acc : Nat × Nat × Nat) b =>
      let (lines, start, j) := acc
      if b = 10 then (lines + 1, j + 1, j + 1) else (lines, start, j + 1)) (0, 0, 0)
  (lines + 1, i - lineStart)

/-- A fault of a text placed at an offset. -/
def faultAt (bytes : ByteArray) (i : Nat) (f : Fault) : Error :=
  let (line, column) := placeOf bytes i
  ⟨.fault f, line, column⟩

/-- The offset of the first byte at or after `i` that fails `p`. -/
def skipWhile (p : UInt8 → Bool) (bytes : ByteArray) (i : Nat) : Nat :=
  if h : i < bytes.size then
    if p bytes[i] then skipWhile p bytes (i + 1) else i
  else i
termination_by bytes.size - i

/-- JSON whitespace: space, tab, line feed and carriage return. -/
def isBlank (b : UInt8) : Bool := b = 0x20 || b = 0x09 || b = 0x0A || b = 0x0D

/-- A decimal digit. -/
def isDigit (b : UInt8) : Bool := 0x30 ≤ b && b ≤ 0x39

namespace Reader

/-- The byte at the cursor, if any. -/
def peek? : Reader (Option UInt8) := do
  let c ← get
  pure c.bytes[c.pos]?

/-- The byte at the cursor, or NUL at the end. -/
def peekOrNull : Reader UInt8 := do
  pure ((← peek?).getD 0)

/-- Moves past one byte. -/
def eat : Reader Unit := modify fun c => { c with pos := c.pos + 1 }

/-- The byte at the cursor, moving past it. -/
def next? : Reader (Option UInt8) := do
  match ← peek? with
  | some b => eat; pure (some b)
  | none => pure none

/-- The byte at the cursor, moving past it, or NUL at the end without moving. -/
def nextOrNull : Reader UInt8 := do
  pure ((← next?).getD 0)

/-- Fails with a fault placed at the cursor. -/
def faultHere {α : Type} (f : Fault) : Reader α := do
  let c ← get
  throw (faultAt c.bytes c.pos f)

/-- Fails with a fault placed one byte past the cursor, but not past the end. -/
def faultAhead {α : Type} (f : Fault) : Reader α := do
  let c ← get
  throw (faultAt c.bytes (min c.bytes.size (c.pos + 1)) f)

/-- Fails with a problem of typed decoding, not yet placed. -/
def problem {α : Type} (p : Problem) : Reader α := throw (Error.ofProblem p)

/-- Runs `r`, and places an error it raises without a place at the cursor where it stopped. -/
def placing {α : Type} (r : Reader α) : Reader α :=
  tryCatch r fun e => do
    let c ← get
    let (line, column) := placeOf c.bytes c.pos
    throw (e.place line column)

/-- Skips whitespace and returns the byte after it, if any. -/
def skipBlank : Reader (Option UInt8) := do
  modify fun c => { c with pos := skipWhile isBlank c.bytes c.pos }
  peek?

/-- Reads the rest of a literal whose first byte was read. -/
def ident (rest : List UInt8) : Reader Unit :=
  match rest with
  | [] => pure ()
  | b :: bs => do
    match ← next? with
    | none => faultHere .eofValue
    | some c => if c = b then ident bs else faultHere .expectedIdent

/-- Opens an array or object: counts it against the nesting limit and moves past its bracket. -/
def enter : Reader Unit := do
  let c ← get
  if c.depth ≤ 1 then
    set { c with depth := 0 }
    faultAhead .recursionLimit
  else
    set { c with depth := c.depth - 1, pos := c.pos + 1 }

/-- Closes what `enter` opened. -/
def leave : Reader Unit := modify fun c => { c with depth := c.depth + 1 }

/-- Runs a pure scan from the cursor and moves to where it ends. -/
def scan {α : Type} (f : ByteArray → Nat → Except Error (α × Nat)) : Reader α := do
  let c ← get
  match f c.bytes c.pos with
  | .ok (a, j) => set { c with pos := j }; pure a
  | .error e => throw e

/-- The expected colon between a key and its value. -/
def colon : Reader Unit := do
  match ← skipBlank with
  | some 0x3A => eat
  | some _ => faultAhead .expectedColon
  | none => faultAhead .eofObject

end Reader

end CloudApi.Json
