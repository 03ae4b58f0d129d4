import CloudApi.Decode.Problem
import CloudApi.Json.Value

/-!
# Typed decoding

A typed decoder is written once against `Source`, the operations a data source offers: numbers,
booleans, strings, whole values, optional values, lists, structs and string enums. JSON text read
as it goes and a JSON value in memory are the two sources of this library.

A struct is decoded through a list of field plans (`Field`). The rules for them hold in every
source and are stated here once. In object form an unknown key is skipped, a key given twice is
refused at its second occurrence (`Field.select`), and after the last entry the first required
field in declaration order that was not given is reported (`Field.firstMissing`). In array form
the fields come in declaration order, and a field the array is too short for must be one that has
a default (`Field.absentElement`); an optional field has no default there.
-/

namespace CloudApi

/-- How a struct treats a field that its input leaves out. -/
inductive Absent where
  /-- Leaving it out is an error. -/
  | required
  /-- Left out of an object it is `none`; an array must still give it. -/
  | optional
  /-- Left out it takes its default, in either form. -/
  | defaulted
  deriving Repr, BEq, DecidableEq, Inhabited

/-- One field of a struct being decoded: its key, how its absence is treated, and how its value is
read into the struct built so far. -/
structure Field (m : Type → Type) (σ : Type) where
  key : String
  absent : Absent
  read : σ → m σ

namespace Field

/-- The field a key selects, `none` for an unknown key, or the error for a key seen before. -/
def select {m : Type → Type} {σ : Type} (fields : List (Field m σ)) (seen : List String)
    (k : String) : Except Problem (Option (Field m σ)) :=
  match fields.find? (·.key == k) with
  | some f => if seen.contains k then .error (.duplicateField k) else .ok (some f)
  | none => .ok none

/-- The first required field, in declaration order, whose key was not seen. -/
def firstMissing {m : Type → Type} {σ : Type} (fields : List (Field m σ)) (seen : List String) :
    Option Problem :=
  (fields.find? fun f => f.absent == .required && !seen.contains f.key).map
    fun f => .missingField f.key

/-- Whether an array may end before field `f`, the `index`-th of `count` fields of `name`. -/
def absentElement {m : Type → Type} {σ : Type} (name : String) (count index : Nat)
    (f : Field m σ) : Except Problem Unit :=
  if f.absent == .defaulted then .ok ()
  else .error (.invalidLength index (Problem.structElements name count))

end Field

/-- A source of data that typed decoders read from. -/
class Source (m : Type → Type) extends Monad m where
  /-- Stops with a problem. -/
  fail {α : Type} : Problem → m α
  /-- An integer from `0` to `bound`; `expected` names the type in errors. -/
  unsigned (bound : Nat) (expected : String) : m Nat
  /-- A number of any kind as a double. -/
  float : m Float
  /-- A boolean. -/
  bool : m Bool
  /-- A string that `accept` turns into a value; `expected` names the type in errors. -/
  text {α : Type} (expected : String) (accept : String → Except Problem α) : m α
  /-- A whole value of any kind. -/
  value : m Json
  /-- A value of any kind, left unread. -/
  skip : m Unit
  /-- `none` for null, else a value that `read` decodes. -/
  option {α : Type} (read : m α) : m (Option α)
  /-- A list whose elements `read` decodes. -/
  list {α : Type} (read : m α) : m (List α)
  /-- A struct called `name`, as an object or an array, built from `init` by its fields. -/
  record {σ : Type} (name : String) (fields : List (Field m σ)) (init : σ) : m σ
  /-- A string enum, each string naming the variant `ofName` gives for it. -/
  variant {α : Type} (ofName : String → α) : m α

namespace Source

variable {m : Type → Type} [Source m]

/-- A 64-bit unsigned integer. -/
def u64 : m Nat := unsigned (Nat.pow 2 64 - 1) "u64"

/-- A 32-bit unsigned integer. -/
def u32 : m Nat := unsigned (Nat.pow 2 32 - 1) "u32"

/-- A double. -/
def f64 : m Float := float

/-- A string. -/
def string : m String := text "a string" .ok

end Source

namespace Field

variable {m : Type → Type} [Monad m] {σ α : Type}

/-- A field that must be given. -/
def req (key : String) (read : m α) (put : σ → α → σ) : Field m σ :=
  ⟨key, .required, fun s => do pure (put s (← read))⟩

/-- An optional field, `none` when an object leaves it out. -/
def opt (key : String) (read : m α) (put : σ → α → σ) : Field m σ :=
  ⟨key, .optional, fun s => do pure (put s (← read))⟩

/-- A field that takes the struct's initial value when it is left out. -/
def dflt (key : String) (read : m α) (put : σ → α → σ) : Field m σ :=
  ⟨key, .defaulted, fun s => do pure (put s (← read))⟩

end Field

end CloudApi
