import CloudApi.Json.Value

/-!
# Fixtures for tests

Bodies in the shapes the API answers with, for tests against a mock server: a page of a list,
an error body, an account event and an instance.
-/

namespace CloudApi.Testkit

/-- A page of a list: its items, its number, how many pages and how many results in all. -/
def pagedBody (page pages results : Nat) (data : List Json) : Json :=
  Json.mkObj [("data", .arr data), ("page", .nat page), ("pages", .nat pages),
    ("results", .nat results)]

/-- An error body with one entry per reason, naming its field when it has one. -/
def errorBody (reasons : List (Option String × String)) : Json :=
  Json.mkObj [("errors", .arr (reasons.map fun (field, reason) =>
    match field with
    | some f => Json.mkObj [("field", .str f), ("reason", .str reason)]
    | none => Json.mkObj [("reason", .str reason)]))]

/-- An account event about an entity with a numeric id, created at a fixed instant, unseen and
unread, complete when finished. -/
def eventJson (id : Nat) (action status entityType : String) (entityId : Nat) : Json :=
  Json.mkObj [("id", .nat id), ("action", .str action), ("status", .str status),
    ("created", .str "2024-05-01T10:00:00"), ("seen", .bool false), ("read", .bool false),
    ("percent_complete", .nat (if status == "finished" then 100 else 0)),
    ("entity", Json.mkObj [("id", .nat entityId), ("type", .str entityType),
      ("label", .str (entityType ++ "-" ++ toString entityId))])]

/-- An instance in the given status. -/
def instanceJson (id : Nat) (status : String) : Json :=
  Json.mkObj [("id", .nat id), ("label", .str ("linode" ++ toString id)), ("status", .str status),
    ("region", .str "us-east"), ("type", .str "g6-nanode-1"),
    ("ipv4", .arr [.str "192.0.2.10"])]

end CloudApi.Testkit
