import CloudApi.Yaml.Decode
import CloudApi.Client.Error
import CloudApi.Text.Case
import CloudApi.Text.Blank
import CloudApi.Json.Value

/-!
# Connection profiles

A profile file is a YAML mapping from profile names to settings. Each profile may set
`linode_api_token`, `linode_api_url` and `linode_api_version`, and every key is optional.
Names are folded to lower case as the file is read, so they match in any case; of names that
fold together, the one visited last wins, in an order the hash map holding the file fixes. A file
with no document, or only `null`, holds no profiles.

Resolving a profile fills what it leaves unset from the `default` profile. What `default`
leaves unset comes from the public API address `api.linode.com` and version `v4`. A resolved
token, address or version that is empty or blank is an error, and so is a name with no
profile.

A file that does not read as such a mapping is a configuration error. Its text is the
reader's complaint, placed at the offending node's path and position.
-/

namespace CloudApi

/-- The settings of one profile, each optional. -/
structure Profile where
  token : Option String := none
  apiUrl : Option String := none
  apiVersion : Option String := none
  deriving Inhabited, BEq, Repr

namespace Profile

/-- The settings of `p`, with what it leaves unset taken from `base`. -/
def overlay (p base : Profile) : Profile :=
  { token := p.token <|> base.token, apiUrl := p.apiUrl <|> base.apiUrl,
    apiVersion := p.apiVersion <|> base.apiVersion }

/-- The keys of a profile in a file. -/
def keys : List String := ["linode_api_token", "linode_api_url", "linode_api_version"]

/-- Set the setting a key names. -/
def set (p : Profile) (key : String) (v : Option String) : Profile :=
  if key == "linode_api_token" then { p with token := v }
  else if key == "linode_api_url" then { p with apiUrl := v }
  else { p with apiVersion := v }

/-- The public API address and version, with no token. -/
def builtin : Profile := { apiUrl := some "api.linode.com", apiVersion := some "v4" }

/-- The settings a profile sets, as JSON under their file keys. -/
def toJson (p : Profile) : Json :=
  .mkObj ((p.token.map fun t => ("linode_api_token", Json.str t)).toList ++
    (p.apiUrl.map fun u => ("linode_api_url", Json.str u)).toList ++
    (p.apiVersion.map fun v => ("linode_api_version", Json.str v)).toList)

end Profile

/-- A profile after inheritance, every setting present. -/
structure ResolvedProfile where
  name : String
  token : String
  apiUrl : String
  apiVersion : String
  deriving Inhabited, BEq, Repr

/-- A resolved profile as JSON. -/
def ResolvedProfile.toJson (r : ResolvedProfile) : Json :=
  .mkObj [("name", .str r.name), ("token", .str r.token), ("api_url", .str r.apiUrl),
    ("api_version", .str r.apiVersion)]

/-- An order in which a hash map visits its entries: some arrangement of them, fixed by the map
and not by the order they were written in. -/
structure VisitOrder (α : Type) where
  arrange : List α → List α
  perm : ∀ l, (arrange l).Perm l

/-- Visiting entries in the order they were written. -/
def VisitOrder.asWritten {α : Type} : VisitOrder α := ⟨id, List.Perm.refl⟩

/-- The profiles of a file under their lower-cased names. -/
structure ProfileSet where
  profiles : List (String × Profile) := []
  deriving Inhabited

namespace ProfileFile

open Yaml

/-- Put an entry in, replacing the value of a name already there. -/
def insert (name : String) (v : α) (entries : List (String × α)) : List (String × α) :=
  if entries.any (·.1 == name) then entries.map fun (k, w) => if k == name then (k, v) else (k, w)
  else entries ++ [(name, v)]

/-- One entry of a profile: a known key, given at most once, with an optional text, or any
other key, whose value is passed over. -/
def profileEntry (d : Document) (fuel : Nat) (path : Path) (acc : Profile × List String)
    (pos : Nat) : Except DecodeError ((Profile × List String) × Nat) := do
  let valuePath := d.valuePath path pos
  let (key, p) ← d.readText "field identifier" fuel path pos
  if Profile.keys.contains key then
    if acc.2.contains key then throw (.message ("duplicate field `" ++ key ++ "`") none)
    let (v, p) ← d.readOption (d.readText "a string") fuel valuePath p
    pure ((acc.1.set key v, key :: acc.2), p)
  else pure (acc, d.skipNode fuel 0 p)

/-- A profile's mapping. -/
def profile (d : Document) (fuel : Nat) (path : Path) (pos : Nat) : Reading Profile :=
  (d.readMap "struct ConfigProfile" (profileEntry d fuel) ({}, []) fuel path pos).map
    fun (v, p) => (v.1, p)

/-- One entry of the file: a name and its profile. -/
def fileEntry (d : Document) (fuel : Nat) (path : Path) (acc : List (String × Profile))
    (pos : Nat) : Except DecodeError (List (String × Profile) × Nat) := do
  let valuePath := d.valuePath path pos
  let (name, p) ← d.readText "a string" fuel path pos
  let (v, p) ← profile d fuel valuePath p
  pure (insert name v acc, p)

/-- The profiles of a document, as written, or nothing. -/
def read (d : Document) : Except DecodeError (Option (List (String × Profile))) :=
  let fuel := d.items.size + 2
  (d.readOption (fun f path pos => d.readMap "a map" (fileEntry d fuel) [] f path pos) fuel
    .root 0).map (·.1)

end ProfileFile

namespace ProfileSet

/-- The profiles of a YAML text, its entries visited in `order` as they are put in under their
lower-cased names. Only one document may be given. -/
def fromYaml (text : String) (order : VisitOrder (String × Profile) := .asWritten) :
    Except ClientError ProfileSet :=
  let s := Yaml.load text
  let failed := fun (e : Yaml.DecodeError) =>
    Except.error (ClientError.config ("Failed to parse config YAML: " ++ e.text))
  match ProfileFile.read s.first with
  | .error e => failed e
  | .ok raw =>
    match s.first.error with
    | some e => failed (.load e)
    | none =>
      if s.more then failed .moreThanOneDocument
      else
        let folded := (order.arrange (raw.getD [])).foldl
          (fun acc (k, v) => ProfileFile.insert (Text.toLower k) v acc) []
        .ok { profiles := folded }

/-- The profiles of a file at `path`, given what reading it gave: its text, or the system's
reason it could not be read. -/
def fromFile (path : String) (contents : Except String String)
    (order : VisitOrder (String × Profile) := .asWritten) : Except ClientError ProfileSet :=
  match contents with
  | .error why => .error (.config ("Failed to read config file " ++ path ++ ": " ++ why))
  | .ok text => fromYaml text order

/-- The profile file the environment names: `LINODE_CONFIG` as given, even when empty. -/
def configPath? (env : String → Option String) : Option String := env "LINODE_CONFIG"

/-- The profile names, sorted. -/
def names (ps : ProfileSet) : List String := (ps.profiles.map (·.1)).mergeSort (· ≤ ·)

/-- A profile as written, found by its name in any case. -/
def get? (ps : ProfileSet) (name : String) : Option Profile := ps.profiles.lookup (Text.toLower name)

/-- The profiles as JSON: name and settings pairs, by name. -/
def toJson (ps : ProfileSet) : Json :=
  .mkObj [("profiles", .arr (ps.names.map fun n =>
    .arr [.str n, match ps.get? n with | some p => p.toJson | none => .null]))]

/-- A profile with every setting filled: from itself, then `default`, then the public API. -/
def resolve (ps : ProfileSet) (name : String) : Except ClientError ResolvedProfile :=
  let name := Text.toLower name
  match ps.profiles.lookup name with
  | none => .error (.config ("Profile " ++ name ++ " does not exist"))
  | some p =>
    let base := match ps.profiles.lookup "default" with
      | some d => d.overlay Profile.builtin
      | none => Profile.builtin
    let m := p.overlay base
    let token := m.token.getD ""
    let apiUrl := m.apiUrl.getD ""
    let apiVersion := m.apiVersion.getD ""
    let blank := [("linode_api_token", token), ("linode_api_url", apiUrl),
      ("linode_api_version", apiVersion)].find? fun (_, v) => Text.isBlankText v
    match blank with
    | some (key, _) => .error (.config ("Unable to resolve " ++ key ++ " for profile " ++ name))
    | none => .ok { name, token, apiUrl, apiVersion }

end ProfileSet

end CloudApi
