import CloudApi.Decode.Source
import CloudApi.Time.Stamp
import CloudApi.Json.Value

/-!
# Resources on the wire

What every resource type shares in how it travels as JSON: timestamps as strings, absent
optional values as `null`, and lists of strings.
-/

namespace CloudApi

/-- A timestamp read from a string, refused with the text of its fault. -/
def Source.stamp {m : Type → Type} [Source m] : m Stamp :=
  Source.text "a formatted date and time string" fun s =>
    match Stamp.parse s with
    | .ok t => .ok t
    | .error f => .error (.custom f.message)

/-- A list of strings. -/
def Source.strings {m : Type → Type} [Source m] : m (List String) := Source.list Source.string

/-- An optional value, `null` when absent. -/
def Json.ofOption {α : Type} (f : α → Json) : Option α → Json
  | some a => f a
  | none => .null

/-- A list of strings. -/
def Json.ofStrings (xs : List String) : Json := .arr (xs.map .str)

/-- An optional string. -/
def Json.optStr : Option String → Json := Json.ofOption .str

/-- An optional timestamp. -/
def Json.optStamp : Option Stamp → Json := Json.ofOption fun t => .str t.render

/-- An optional unsigned integer. -/
def Json.optNat : Option Nat → Json := Json.ofOption Json.nat

end CloudApi
