import CloudApi.Json.Error
import CloudApi.Decode.Source
import CloudApi.Decimal.Binary

/-!
# Decoding a JSON value in memory

`Walk` is a `Source` over a value already parsed: the decoder reads the value it is given, and a
field's or element's decoder reads that part of it. Errors have no place. An array read as a
struct must have no more elements than the struct has fields, and an enum is a string or an object
with a single key whose value is null.
-/

namespace CloudApi.Json

/-- Decoding a value in memory. -/
abbrev Walk := ReaderT Json (Except Error)

namespace Walk

/-- Stops with a problem. -/
def problem {α : Type} (p : Problem) : Walk α := fun _ => .error (Error.ofProblem p)

/-- Runs a decoder on a part of the value. -/
def on {α : Type} (v : Json) (d : Walk α) : Walk α := fun _ => d v

/-- Refuses the value for a decoder that expects `expected`. -/
def refuse {α : Type} (expected : String) : Walk α := do
  problem (.invalidType (← read).unexpected expected)

/-- An unsigned integer up to `bound`. -/
def unsignedAt (bound : Nat) (expected : String) : Walk Nat := do
  match ← read with
  | .num (.nat n) => if n ≤ bound then pure n else problem (.invalidValue (.unsigned n) expected)
  | .num (.neg i) => problem (.invalidValue (.signed i) expected)
  | _ => refuse expected

/-- A number of any kind as a double. -/
def floatAt : Walk Float := do
  match ← read with
  | .num (.nat n) => pure (Decimal.Binary.nearest n)
  | .num (.neg i) => pure (-(Decimal.Binary.nearest i.natAbs))
  | .num (.float f) => pure f
  | _ => refuse "f64"

/-- A boolean. -/
def boolAt : Walk Bool := do
  match ← read with
  | .bool b => pure b
  | _ => refuse "a boolean"

/-- A string turned into a value by `accept`. -/
def textAt {α : Type} (expected : String) (accept : String → Except Problem α) : Walk α := do
  match ← read with
  | .str s =>
    match accept s with
    | .ok a => pure a
    | .error p => problem p
  | _ => refuse expected

/-- `none` for null, else what `read` decodes. -/
def optionAt {α : Type} (d : Walk α) : Walk (Option α) := do
  match ← read with
  | .null => pure none
  | _ => some <$> d

/-- A list of what `d` decodes. -/
def listAt {α : Type} (d : Walk α) : Walk (List α) := do
  match ← read with
  | .arr items => items.mapM fun v => on v d
  | _ => refuse "a sequence"

/-- The entries of an object read into a struct; `seen` holds the keys given so far. -/
def entries {σ : Type} (fields : List (Field Walk σ)) :
    List (String × Json) → σ → List String → Walk σ
  | [], acc, seen =>
    match Field.firstMissing fields seen with
    | some p => problem p
    | none => pure acc
  | (k, v) :: rest, acc, seen =>
    match Field.select fields seen k with
    | .error p => problem p
    | .ok (some f) => do entries fields rest (← on v (f.read acc)) (k :: seen)
    | .ok none => entries fields rest acc seen

/-- The elements of an array read into a struct, field by field. -/
def slots {σ : Type} (name : String) (count : Nat) :
    Nat → List (Field Walk σ) → List Json → σ → Walk σ
  | _, [], _, acc => pure acc
  | i, f :: fs, v :: vs, acc => do slots name count (i + 1) fs vs (← on v (f.read acc))
  | i, f :: fs, [], acc =>
    match Field.absentElement name count i f with
    | .ok () => slots name count (i + 1) fs [] acc
    | .error p => problem p

/-- A struct from an object or an array. -/
def recordAt {σ : Type} (name : String) (fields : List (Field Walk σ)) (init : σ) : Walk σ := do
  match ← read with
  | .obj entries' => entries fields entries' init []
  | .arr items =>
    let s ← slots name fields.length 0 fields items init
    if items.length > fields.length then
      problem (.invalidLength items.length "fewer elements in array")
    else pure s
  | _ => refuse ("struct " ++ name)

/-- A string enum, from a string or an object with one key whose value is null. -/
def variantAt {α : Type} (ofName : String → α) : Walk α := do
  match ← read with
  | .str s => pure (ofName s)
  | .obj [(k, v)] =>
    match v with
    | .null => pure (ofName k)
    | _ => problem (.invalidType v.unexpected "unit")
  | .obj _ => problem (.invalidValue .map "map with a single key")
  | _ => refuse "string or map"

end Walk

instance : Source Walk where
  fail := Walk.problem
  unsigned := Walk.unsignedAt
  float := Walk.floatAt
  bool := Walk.boolAt
  text := Walk.textAt
  value := read
  skip := pure ()
  option := Walk.optionAt
  list := Walk.listAt
  record := Walk.recordAt
  variant := Walk.variantAt

/-- Decodes a value in memory with a typed decoder. -/
def decodeValue {α : Type} (read : Walk α) (v : Json) : Except Error α := read v

end CloudApi.Json
