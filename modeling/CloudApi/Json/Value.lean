/-!
# JSON values

A JSON document as this library holds it. A number keeps the kind its literal was read as:
an integer in `[0, 2^64)`, a negative integer down to `-2^63`, or a double. An object is a list of
fields sorted by key with each key once, so that two objects with the same fields are equal and
printing writes keys in byte order; `Fields.insert` keeps that form, and the last value given
for a key wins.
-/

namespace CloudApi

/-- A JSON number in the kind its literal was read as. -/
inductive Number where
  | nat (n : Nat)
  | neg (n : Int)
  | float (f : Float)
  deriving Inhabited

/-- A JSON value; the fields of an object are sorted by key, each key once. -/
inductive Json where
  | null
  | bool (b : Bool)
  | num (n : Number)
  | str (s : String)
  | arr (items : List Json)
  | obj (fields : List (String × Json))
  deriving Inhabited

/-- Numbers are equal when they are of one kind and equal there; doubles compare as doubles. -/
def Number.beq : Number → Number → Bool
  | .nat a, .nat b => a == b
  | .neg a, .neg b => a == b
  | .float a, .float b => a == b
  | _, _ => false

namespace Json

/-- An unsigned integer value. -/
def nat (n : Nat) : Json := .num (.nat n)

/-- A double value. -/
def float (f : Float) : Json := .num (.float f)

/-- An integer value in the kind its sign asks for. -/
def int (i : Int) : Json := if i < 0 then .num (.neg i) else .num (.nat i.toNat)

/-- Puts `v` under `k` in sorted fields, in place of any value already there. -/
def Fields.insert (k : String) (v : Json) : List (String × Json) → List (String × Json)
  | [] => [(k, v)]
  | (k', v') :: rest =>
    if k < k' then (k, v) :: (k', v') :: rest
    else if k = k' then (k, v) :: rest
    else (k', v') :: Fields.insert k v rest

/-- Sorted fields from pairs in any order; a later pair for a key wins. -/
def Fields.ofList (pairs : List (String × Json)) : List (String × Json) :=
  pairs.foldl (fun acc (k, v) => Fields.insert k v acc) []

/-- An object from pairs in any order; a later pair for a key wins. -/
def mkObj (pairs : List (String × Json)) : Json := .obj (Fields.ofList pairs)

/-- The value under a key of an object. -/
def get? (j : Json) (k : String) : Option Json :=
  match j with
  | .obj fs => fs.lookup k
  | _ => none

mutual
/-- Equality of values: numbers of different kinds differ, so `1` is not `1.0`. -/
def beq : Json → Json → Bool
  | .null, .null => true
  | .bool a, .bool b => a == b
  | .num a, .num b => a.beq b
  | .str a, .str b => a == b
  | .arr as, .arr bs => beqList as bs
  | .obj fs, .obj gs => beqFields fs gs
  | _, _ => false

/-- Pointwise equality of two lists of values. -/
def beqList : List Json → List Json → Bool
  | [], [] => true
  | a :: as, b :: bs => beq a b && beqList as bs
  | _, _ => false

/-- Pointwise equality of two field lists. -/
def beqFields : List (String × Json) → List (String × Json) → Bool
  | [], [] => true
  | (k, a) :: fs, (l, b) :: gs => k == l && beq a b && beqFields fs gs
  | _, _ => false
end

instance : BEq Json := ⟨beq⟩

end Json

end CloudApi
