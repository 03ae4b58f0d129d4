import CloudApi.Json.Print
import CloudApi.Text.Quoted

/-!
# Problems of typed decoding

What a typed decoder reports when well-formed data has the wrong shape: a value of the wrong kind
(`invalidType`), of the right kind but out of range (`invalidValue`), an array of the wrong
length, a field missing or given twice, or a message of the type's own. Every data format of
this library reports these in the same words; `Problem.message` holds them.
-/

namespace CloudApi

/-- The kind of value a decoder found where it expected another, with its content. -/
inductive Unexpected where
  | bool (b : Bool)
  | unsigned (n : Nat)
  | signed (i : Int)
  | float (f : Float)
  | str (s : String)
  | null
  | unit
  | seq
  | map
  deriving Inhabited

/-- How a found value is named in messages. -/
def Unexpected.describe : Unexpected → String
  | .bool b => "boolean `" ++ toString b ++ "`"
  | .unsigned n => "integer `" ++ toString n ++ "`"
  | .signed i => "integer `" ++ toString i ++ "`"
  | .float f => "floating point `" ++ Json.floatText f ++ "`"
  | .str s => "string " ++ Quoted.text s
  | .null => "null"
  | .unit => "unit value"
  | .seq => "sequence"
  | .map => "map"

/-- How a number is named when a decoder refuses it. -/
def Number.unexpected : Number → Unexpected
  | .nat n => .unsigned n
  | .neg i => .signed i
  | .float f => .float f

/-- How a value is named when a decoder refuses it. -/
def Json.unexpected : Json → Unexpected
  | .null => .null
  | .bool b => .bool b
  | .num n => n.unexpected
  | .str s => .str s
  | .arr _ => .seq
  | .obj _ => .map

/-- What is wrong with well-formed data for the type it is decoded as. -/
inductive Problem where
  | invalidType (found : Unexpected) (expected : String)
  | invalidValue (found : Unexpected) (expected : String)
  | invalidLength (length : Nat) (expected : String)
  | missingField (name : String)
  | duplicateField (name : String)
  | custom (message : String)
  deriving Inhabited

/-- The text of a problem. -/
def Problem.message : Problem → String
  | .invalidType u e => "invalid type: " ++ u.describe ++ ", expected " ++ e
  | .invalidValue u e => "invalid value: " ++ u.describe ++ ", expected " ++ e
  | .invalidLength n e => "invalid length " ++ toString n ++ ", expected " ++ e
  | .missingField f => "missing field `" ++ f ++ "`"
  | .duplicateField f => "duplicate field `" ++ f ++ "`"
  | .custom m => m

/-- The expectation of a struct read from an array: its name and how many fields it has. -/
def Problem.structElements (name : String) (count : Nat) : String :=
  "struct " ++ name ++ " with " ++ toString count ++ (if count = 1 then " element" else " elements")

end CloudApi
