import CloudApi.Http.Header

/-!
# Responses

A response as the client holds it once it has been read in full.
-/

namespace CloudApi.Http

/-- A response read in full: status code, header fields and body bytes. -/
structure Response where
  status : Nat
  headers : Headers := []
  body : ByteArray := ByteArray.empty

end CloudApi.Http
