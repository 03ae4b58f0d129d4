import CloudApi.Json.Print

/-!
# Filters

A filter selects the items a list request returns. It is sent as JSON: a comparison is an object
with the column as its one key, holding the value itself for equality and `{"+op": value}` for
the other operators; a conjunction or disjunction is `{"+and": […]}` or `{"+or": […]}`.
-/

namespace CloudApi

/-- A comparison operator of a filter. -/
inductive Operator where
  | eq
  | neq
  | gt
  | gte
  | lt
  | lte
  | contains
  deriving Repr, BEq, DecidableEq, Inhabited

namespace Operator

/-- The key an operator is sent under. -/
def key : Operator → String
  | .eq => "+eq"
  | .neq => "+neq"
  | .gt => "+gt"
  | .gte => "+gte"
  | .lt => "+lt"
  | .lte => "+lte"
  | .contains => "+contains"

/-- The operator a short name stands for. -/
def ofName? : String → Option Operator
  | "eq" => some .eq
  | "neq" => some .neq
  | "gt" => some .gt
  | "gte" => some .gte
  | "lt" => some .lt
  | "lte" => some .lte
  | "contains" => some .contains
  | _ => none

end Operator

/-- A filter on the items of a list. -/
inductive Filter where
  | compare (column : String) (op : Operator) (value : Json)
  | all (children : List Filter)
  | any (children : List Filter)
  deriving Inhabited

namespace Filter

/-- The JSON a filter is sent as. -/
def toJson : Filter → Json
  | .compare column .eq value => .obj [(column, value)]
  | .compare column op value => .obj [(column, .obj [(op.key, value)])]
  | .all children => .obj [("+and", .arr (children.attach.map fun ⟨c, _⟩ => c.toJson))]
  | .any children => .obj [("+or", .arr (children.attach.map fun ⟨c, _⟩ => c.toJson))]

/-- The text a filter is sent as. -/
def render (f : Filter) : String := f.toJson.render

end Filter

end CloudApi
