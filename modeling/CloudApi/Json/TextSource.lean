import CloudApi.Json.Parse
import CloudApi.Decode.Source

/-!
# Decoding while reading JSON text

`Reader` is a `Source`: a typed decoder runs as the text is read, so the first fault or problem
in reading order is the one reported. A problem is placed where reading stood when the innermost
decoder of a scalar, list or struct gave it up: after the value it refused, or, for a struct, once
its closing bracket has been tried, so a missing field is placed after the `}`.

A value of the wrong kind is read in full to name it: `invalid type: string "x", expected u64`.
A bracket is named without being read, and a byte that starts no value is a fault.
-/

namespace CloudApi.Json.Reader

/-- The kind of value at the cursor, read so far as naming it needs. -/
def found : Reader Unexpected := do
  let b ← peekOrNull
  if b = 0x6E then eat; ident [0x75, 0x6C, 0x6C]; pure .null
  else if b = 0x74 then eat; ident [0x72, 0x75, 0x65]; pure (.bool true)
  else if b = 0x66 then eat; ident [0x61, 0x6C, 0x73, 0x65]; pure (.bool false)
  else if b = 0x2D then eat; pure (Number.unexpected (← number false))
  else if isDigit b then pure (Number.unexpected (← number true))
  else if b = 0x22 then eat; pure (.str (← scan scanString))
  else if b = 0x5B then pure .seq
  else if b = 0x7B then pure .map
  else faultAhead .expectedValue

/-- Refuses the value at the cursor for a decoder that expects `expected`. -/
def refuse {α : Type} (expected : String) : Reader α := do
  problem (.invalidType (← found) expected)

/-- Runs `body`, then `close` whether or not `body` failed; `body`'s error wins. -/
def closing {α : Type} (body : Reader α) (close : Reader Unit) : Reader α := do
  let r ← tryCatch (Except.ok <$> body) fun e => pure (Except.error e)
  leave
  match r with
  | .ok a => close; pure a
  | .error e => tryCatch close (fun _ => pure ()); throw e

/-- A scalar decoder: the value at the cursor after whitespace, or a fault at the end. -/
def scalar {α : Type} (read : UInt8 → Reader α) : Reader α := placing do
  match ← skipBlank with
  | none => faultAhead .eofValue
  | some b => read b

/-- An unsigned integer up to `bound`. -/
def unsignedAt (bound : Nat) (expected : String) : Reader Nat :=
  scalar fun b => do
    if b = 0x2D ∨ isDigit b then
      if b = 0x2D then eat
      match ← number (b ≠ 0x2D) with
      | .nat n => if n ≤ bound then pure n else problem (.invalidValue (.unsigned n) expected)
      | .neg i => problem (.invalidValue (.signed i) expected)
      | .float f => problem (.invalidType (.float f) expected)
    else refuse expected

/-- A number of any kind as a double. -/
def floatAt : Reader Float :=
  scalar fun b => do
    if b = 0x2D ∨ isDigit b then
      if b = 0x2D then eat
      match ← number (b ≠ 0x2D) with
      | .nat n => pure (Decimal.Binary.nearest n)
      | .neg i => pure (-(Decimal.Binary.nearest i.natAbs))
      | .float f => pure f
    else refuse "f64"

/-- A boolean. -/
def boolAt : Reader Bool :=
  scalar fun b => do
    if b = 0x74 then eat; ident [0x72, 0x75, 0x65]; pure true
    else if b = 0x66 then eat; ident [0x61, 0x6C, 0x73, 0x65]; pure false
    else refuse "a boolean"

/-- A string turned into a value by `accept`. -/
def textAt {α : Type} (expected : String) (accept : String → Except Problem α) : Reader α :=
  scalar fun b => do
    if b = 0x22 then
      eat
      match accept (← scan scanString) with
      | .ok a => pure a
      | .error p => problem p
    else refuse expected

/-- `none` for null, else what `read` decodes. -/
def optionAt {α : Type} (read : Reader α) : Reader (Option α) := do
  match ← skipBlank with
  | some 0x6E => eat; ident [0x75, 0x6C, 0x6C]; pure none
  | _ => some <$> read

/-- The elements of an array after `acc`, within a step budget. -/
def elements {α : Type} (read : Reader α) : Nat → Bool → List α → Reader (List α)
  | 0, _, acc => pure acc
  | fuel + 1, first, acc => do
    match ← nextElement first read with
    | some a => elements read fuel false (acc ++ [a])
    | none => pure acc

/-- A list of what `read` decodes. -/
def listAt {α : Type} (read : Reader α) : Reader (List α) := placing do
  match ← skipBlank with
  | none => faultAhead .eofValue
  | some 0x5B =>
    enter
    closing (do elements read (budget (← get).bytes.size) true []) endSeq
  | some _ => refuse "a sequence"

/-- The entries of an object read into a struct; `seen` holds the keys given so far. -/
def entries {σ : Type} (fields : List (Field Reader σ)) :
    Nat → Bool → σ → List String → Reader σ
  | 0, _, acc, _ => pure acc
  | fuel + 1, first, acc, seen => do
    match ← nextKey first with
    | none =>
      match Field.firstMissing fields seen with
      | some p => problem p
      | none => pure acc
    | some k =>
      match Field.select fields seen k with
      | .error p => problem p
      | .ok (some f) => colon; entries fields fuel false (← f.read acc) (k :: seen)
      | .ok none => colon; skip; entries fields fuel false acc seen

/-- The elements of an array read into a struct, field by field. -/
def slots {σ : Type} (name : String) (count : Nat) :
    Nat → List (Field Reader σ) → σ → Reader σ
  | _, [], acc => pure acc
  | i, f :: fs, acc => do
    match ← nextElement (i = 0) (f.read acc) with
    | some acc' => slots name count (i + 1) fs acc'
    | none =>
      match Field.absentElement name count i f with
      | .ok () => slots name count (i + 1) fs acc
      | .error p => problem p

/-- A struct from an object or an array. -/
def recordAt {σ : Type} (name : String) (fields : List (Field Reader σ)) (init : σ) : Reader σ :=
  placing do
    match ← skipBlank with
    | none => faultAhead .eofValue
    | some 0x5B =>
      enter
      closing (slots name fields.length 0 fields init) endSeq
    | some 0x7B =>
      enter
      closing (do entries fields (budget (← get).bytes.size) true init []) endMap
    | some _ => refuse ("struct " ++ name)

/-- The name of an enum variant inside its object form. -/
def variantName : Reader String := textAt "variant identifier" .ok

/-- The null that follows a unit variant's name in its object form. -/
def unitAt : Reader Unit :=
  scalar fun b => do
    if b = 0x6E then eat; ident [0x75, 0x6C, 0x6C] else refuse "unit"

/-- A string enum, from a string or an object holding the name with a null. -/
def variantAt {α : Type} (ofName : String → α) : Reader α := do
  match ← skipBlank with
  | some 0x22 => ofName <$> textAt "variant identifier" .ok
  | some 0x7B =>
    enter
    let r ← tryCatch (Except.ok <$> (do let k ← variantName; colon; unitAt; pure k))
      fun e => pure (Except.error e)
    leave
    match r with
    | .error e => throw e
    | .ok k =>
      match ← skipBlank with
      | some 0x7D => eat; pure (ofName k)
      | some _ => faultHere .expectedValue
      | none => faultHere .eofObject
  | some _ => faultAhead .expectedValue
  | none => faultAhead .eofValue

end Reader

instance : Source Reader where
  fail := Reader.problem
  unsigned := Reader.unsignedAt
  float := Reader.floatAt
  bool := Reader.boolAt
  text := Reader.textAt
  value := Reader.value
  skip := Reader.skip
  option := Reader.optionAt
  list := Reader.listAt
  record := Reader.recordAt
  variant := Reader.variantAt

/-- Decodes a whole JSON text with a typed decoder. -/
def decodeText {α : Type} (read : Reader α) (bytes : ByteArray) : Except Error α :=
  Reader.readAll read bytes

end CloudApi.Json
