import CloudApi.Query.Page
import CloudApi.Json.Print
import CloudApi.Web.Url
import CloudApi.Http.Header

/-!
# API requests

An `ApiRequest` is one call before the client adds its headers and runs its hooks. It holds a
method and a path relative to the versioned base address. It may add query pairs, a filter
expression for the `X-Filter` header and a body. A read may also be marked as one the response
cache may answer.

A `HookRequest` is a request as it goes on the wire for one attempt: the method, the full
address, the headers, the body and the attempt number, counted from 0.
-/

namespace CloudApi

/-- One API call. -/
structure ApiRequest where
  method : String
  path : String
  query : List (String × String) := []
  filter : Option String := none
  body : Option ByteArray := none
  cacheable : Bool := false
  deriving Inhabited

namespace ApiRequest

/-- A read. -/
def get (path : String) : ApiRequest := { method := "GET", path }

/-- A creation or action. -/
def post (path : String) : ApiRequest := { method := "POST", path }

/-- An update. -/
def put (path : String) : ApiRequest := { method := "PUT", path }

/-- A removal. -/
def delete (path : String) : ApiRequest := { method := "DELETE", path }

/-- Add a query pair after those there. -/
def withQuery (r : ApiRequest) (key value : String) : ApiRequest :=
  { r with query := r.query ++ [(key, value)] }

/-- Set the filter expression. -/
def withFilter (r : ApiRequest) (filter : Option String) : ApiRequest := { r with filter }

/-- Send a JSON value as the body, in its compact text. -/
def withJson (r : ApiRequest) (body : Json) : ApiRequest := { r with body := some body.render.toUTF8 }

/-- Let the response cache answer this request. -/
def cached (r : ApiRequest) : ApiRequest := { r with cacheable := true }

/-- The read of one page of a list: the page's filter, then its query pairs. -/
def page (path : String) (p : PageRequest) : ApiRequest :=
  p.query.foldl (fun r (k, v) => r.withQuery k v) ((get path).withFilter p.filter)

end ApiRequest

/-- A request as it goes on the wire, for one attempt. -/
structure HookRequest where
  method : String
  url : Web.Url
  headers : Http.Headers
  body : Option ByteArray
  attempt : Nat

end CloudApi
