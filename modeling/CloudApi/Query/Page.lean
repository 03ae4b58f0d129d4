import CloudApi.Query.Filter
import CloudApi.Json.Parse
import CloudApi.Client.Error
import CloudApi.Decode.Source

/-!
# Pages of list results

List endpoints return their items a page at a time. `ListOptions` says which page, how large,
with which filter and in which order. The filter header (`ListOptions.filterHeader`) is the raw
filter as given when no order is asked for; otherwise the filter must be a JSON object, and the
sort keys `+order_by` and `+order` are put into it. `fetchAll` fetches one page when a page is
named, and otherwise pages from the first until one comes back empty or the last page is
reached.
-/

namespace CloudApi

/-- The order of sorted results. -/
inductive SortOrder where
  | ascending
  | descending
  deriving Repr, BEq, DecidableEq, Inhabited

/-- The name of an order. -/
def SortOrder.name : SortOrder → String
  | .ascending => "asc"
  | .descending => "desc"

/-- What a list request asks for; page and size `0` leave them to the API. -/
structure ListOptions where
  page : Nat := 0
  pageSize : Nat := 0
  filter : Option String := none
  orderBy : Option String := none
  order : Option SortOrder := none
  deriving Repr, Inhabited

/-- The request for one page. -/
structure PageRequest where
  page : Nat
  pageSize : Nat
  filter : Option String
  deriving Repr, Inhabited

/-- The query pairs of a page request: the page and the size, each when not zero. -/
def PageRequest.query (r : PageRequest) : List (String × String) :=
  (if r.page ≠ 0 then [("page", toString r.page)] else []) ++
  (if r.pageSize ≠ 0 then [("page_size", toString r.pageSize)] else [])

namespace ListOptions

/-- The filter header of a list request, with the sort keys merged into the filter. -/
def filterHeader (o : ListOptions) : Except ClientError (Option String) := do
  if o.orderBy.isNone ∧ o.order.isNone then return o.filter
  let base ← match o.filter with
    | none => pure []
    | some raw =>
      match Json.parseString raw with
      | .ok (.obj fields) => pure fields
      | _ => throw (.validation
          ("cannot apply sorting to a filter that is not a JSON object: " ++ raw))
  let withKey := match o.orderBy with
    | some k => Json.Fields.insert "+order_by" (.str k) base
    | none => base
  let withOrder := match o.order with
    | some ord => Json.Fields.insert "+order" (.str ord.name) withKey
    | none => withKey
  return some (Json.obj withOrder).render

/-- The request for page `page`. -/
def request (o : ListOptions) (page : Nat) (filter : Option String) : PageRequest :=
  ⟨page, o.pageSize, filter⟩

end ListOptions

/-- One page of a list: its items, its number, the number of pages and of results. -/
structure PageResult (α : Type) where
  items : List α := []
  currentPage : Nat := 0
  totalPages : Nat := 0
  totalResults : Nat := 0
  deriving Inhabited

/-- Decodes a page whose items `item` decodes. -/
def PageResult.decode {m : Type → Type} [Source m] {α : Type} (item : m α) : m (PageResult α) :=
  Source.record "PageResult"
    [.dflt "data" (Source.list item) fun s v => { s with items := v },
     .dflt "page" Source.u32 fun s v => { s with currentPage := v },
     .dflt "pages" Source.u32 fun s v => { s with totalPages := v },
     .dflt "results" Source.u32 fun s v => { s with totalResults := v }] {}

/-- The JSON of a page whose items `item` encodes. -/
def PageResult.toJson {α : Type} (item : α → Json) (p : PageResult α) : Json :=
  .mkObj [("data", .arr (p.items.map item)), ("page", .nat p.currentPage),
    ("pages", .nat p.totalPages), ("results", .nat p.totalResults)]

/-- The highest page number a request can name. -/
def lastPageNumber : Nat := Nat.pow 2 32 - 1

/-- Pages from `page` on, their items after `acc`, until one is empty or the last. -/
def fetchFrom {m : Type → Type} [Monad m] {α : Type} (o : ListOptions) (filter : Option String)
    (fetch : PageRequest → m (Except ClientError (PageResult α))) :
    Nat → Nat → List α → m (Except ClientError (List α))
  | 0, _, acc => pure (.ok acc)
  | fuel + 1, page, acc => do
    match ← fetch (o.request page filter) with
    | .error e => pure (.error e)
    | .ok r =>
      let acc := acc ++ r.items
      if r.items.isEmpty ∨ page ≥ r.totalPages then pure (.ok acc)
      else fetchFrom o filter fetch fuel (page + 1) acc

/-- All items of a list: the named page only, or every page from the first. -/
def fetchAll {m : Type → Type} [Monad m] {α : Type} (o : ListOptions)
    (fetch : PageRequest → m (Except ClientError (PageResult α))) :
    m (Except ClientError (List α)) := do
  match o.filterHeader with
  | .error e => pure (.error e)
  | .ok filter =>
    if o.page ≠ 0 then
      match ← fetch (o.request o.page filter) with
      | .ok r => pure (.ok r.items)
      | .error e => pure (.error e)
    else fetchFrom o filter fetch lastPageNumber 1 []

end CloudApi
