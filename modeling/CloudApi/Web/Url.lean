import CloudApi.Web.Host

/-!
# Web addresses

A web address is a scheme, an optional host with a user name, password and port, a path, and
an optional query and fragment. The schemes `http`, `https`, `ws`, `wss`, `ftp` and `file` are
special: their host is a domain name or an IP address, their path always has a segment, and a
backslash separates segments like a slash.

`Url.parse` reads an address the way browsers do: surrounding controls and spaces are dropped,
tabs and line breaks are ignored, the scheme and host are lowercased, a default port is
dropped, `.` and `..` segments are resolved, and what may not stand as itself is
percent-encoded. Given a base, a relative reference is resolved against it: `Url.join`.
`Url.href` writes an address back; `Url.origin` is its scheme, host and port, or `null` when
it has none that can be written.
-/

namespace CloudApi.Web

/-- The path of an address: segments, or one opaque text for an address that cannot be a
base. -/
inductive UrlPath where
  | segments (parts : List String)
  | verbatim (text : String)
  deriving Repr, BEq, Inhabited

/-- A parsed web address. -/
structure Url where
  scheme : String
  username : String := ""
  password : String := ""
  host : Option Host := none
  port : Option Nat := none
  path : UrlPath := .segments []
  query : Option String := none
  fragment : Option String := none
  deriving Repr, BEq, Inhabited

/-- The default port of a special scheme, or `none` inside for `file`; nothing for a scheme
that is not special. -/
def specialPort : String → Option (Option Nat)
  | "http" | "ws" => some (some 80)
  | "https" | "wss" => some (some 443)
  | "ftp" => some (some 21)
  | "file" => some none
  | _ => none

/-- Whether a scheme is special. -/
def isSpecial (scheme : String) : Bool := (specialPort scheme).isSome

/-- Whether a character separates path segments. -/
def isSlash (special : Bool) (c : Char) : Bool := c == '/' || (special && c == '\\')

/-! ### Path segments -/

/-- Whether two characters are a drive letter: a letter and `:` or `|`. -/
def isDrive : List Char → Bool
  | [a, b] => a.isAlpha && (b == ':' || b == '|')
  | _ => false

/-- Whether two characters are a drive letter written with `:`. -/
def isNormalDrive : List Char → Bool
  | [a, ':'] => a.isAlpha
  | _ => false

/-- Whether a text starts with a drive letter that ends there or at a delimiter. -/
def startsWithDrive : List Char → Bool
  | a :: b :: rest =>
    isDrive [a, b] && match rest with
      | [] => true
      | c :: _ => c == '/' || c == '\\' || c == '?' || c == '#'
  | _ => false

/-- ASCII lowercase of a text. -/
def asciiLower (s : String) : String := String.ofList (s.toList.map Char.toLower)

/-- Whether a segment means the segment itself. -/
def isSingleDot (seg : String) : Bool := seg == "." || asciiLower seg == "%2e"

/-- Whether a segment means the parent segment. -/
def isDoubleDot (seg : String) : Bool :=
  let s := asciiLower seg
  s == ".." || s == ".%2e" || s == "%2e." || s == "%2e%2e"

/-- The last index of a character in a list. -/
def lastIndexOf (x : Char) (cs : List Char) : Option Nat :=
  (cs.zipIdx.filter (·.1 == x)).getLast?.map (·.2)

/-- Whether a path text starts with a delimiter and then a drive letter. -/
def pathStartsWithDrive : List Char → Bool
  | c :: rest => (c == '/' || c == '\\' || c == '?' || c == '#') && startsWithDrive rest
  | [] => false

/-- The pieces of a text between the occurrences of one character. -/
def splitOnChar (x : Char) : List Char → List (List Char)
  | [] => [[]]
  | c :: rest =>
    let ps := splitOnChar x rest
    if c == x then [] :: ps
    else match ps with
      | p :: more => (c :: p) :: more
      | [] => [[c]]

/-- The segments of a path text that starts with a slash. -/
def segmentsOf : List Char → List String
  | [] => []
  | _ :: rest => (splitOnChar '/' rest).map String.ofList

/-- The text of a path: each segment behind a slash. -/
def textOf (ps : List String) : List Char := (ps.map fun s => '/' :: s.toList).flatten

/-- The path text without its last segment, the slash before it kept; a `file` path keeps a
last segment that is a drive letter. -/
def popSegment (isFile : Bool) (p : List Char) : List Char :=
  match lastIndexOf '/' p with
  | some i => if isFile && isNormalDrive (p.drop (i + 1)) then p else p.take (i + 1)
  | none => p

/-- The path text shortened by its last segment; an empty path stays, and so does a `file` path
whose only segment that is not empty is a drive letter. -/
def shortenText (isFile : Bool) (p : List Char) : List Char :=
  if p.isEmpty then p
  else if isFile && (match (splitOnChar '/' p).filter (!·.isEmpty) with
      | [d] => isNormalDrive d
      | _ => false) then p
  else popSegment isFile p

/-- Whether the slash a path text ends with goes with a `..` after it: there is a slash before
it in the path, and no drive letter behind that one. -/
def lastSlashRemovable (p : List Char) : Bool :=
  match lastIndexOf '/' p.dropLast with
  | some i => !pathStartsWithDrive (p.drop i)
  | none => false

/-- Close the segment that starts at `start` of a path text, at a slash already written or at
the end of the path. A `..` segment goes with the segment before it, a `.` segment goes, and a
`file` path that is only a drive letter gets `:` as its second character; the flag says that a
drive letter was met. -/
def closeSegment (isFile : Bool) (p : List Char) (start : Nat) (slash : Bool) :
    List Char × Bool :=
  let seg := String.ofList ((if slash then p.dropLast else p).drop start)
  if isDoubleDot seg then
    let p := p.take start
    let p := if p.getLast? == some '/' && lastSlashRemovable p then p.dropLast else p
    let p := shortenText isFile p
    (if slash && p.getLast? != some '/' then p ++ ['/'] else p, false)
  else if isSingleDot seg then
    let p := p.take start
    (if p.getLast? != some '/' then p ++ ['/'] else p, false)
  else if isFile && isDrive (p.drop 1) then
    (if p.getLast? == some '|' then p.dropLast ++ [':'] else p, true)
  else (p, false)

/-- Read path segments onto the path text `p` up to a `?` or `#`: the segment being read starts
at `start`, and `drive` says whether a drive letter was met. In a `file` path a character after
a first segment that is a drive letter starts a new segment. -/
def readSegments (special isFile : Bool) :
    List Char → Nat → Bool → List Char → List Char × Bool × List Char
  | p, start, drive, [] =>
    let (p, d) := closeSegment isFile p start false
    (p, drive || d, [])
  | p, start, drive, c :: cs =>
    if c == '/' || (special && c == '\\') then
      let (p, d) := closeSegment isFile (p ++ ['/']) start true
      readSegments special isFile p p.length (drive || d) cs
    else if c == '?' || c == '#' then
      let (p, d) := closeSegment isFile p start false
      (p, drive || d, c :: cs)
    else
      let (p, start) := if isFile && !p.isEmpty && isNormalDrive (p.drop 1) then
          (p ++ ['/'], start + 1)
        else (p, start)
      readSegments special isFile (p ++ (encodeChar .path c).toList) start drive cs

/-- Read a path onto the path text `p`, returning the path text, whether a drive letter was met,
and the rest. A `file` path loses its leading empty segments. -/
def readPath (special isFile : Bool) (p cs : List Char) : List Char × Bool × List Char :=
  let (p, drive, rest) := readSegments special isFile p p.length false cs
  ((if isFile then '/' :: p.dropWhile (· == '/') else p), drive, rest)

/-! ### Query and fragment -/

/-- Read what follows the path: a query behind `?`, then a fragment behind `#`. -/
def withTail (url : Url) : List Char → Url
  | '?' :: rest =>
    let (q, more) := rest.span (· != '#')
    let set := if isSpecial url.scheme then EncodeSet.specialQuery else EncodeSet.query
    let url := { url with query := some (String.join (q.map (encodeChar set))) }
    match more with
    | '#' :: f => { url with fragment := some (percentEncode .fragment (String.ofList f)) }
    | _ => url
  | '#' :: f => { url with fragment := some (percentEncode .fragment (String.ofList f)) }
  | _ => url

/-- The address with a path read from `cs` onto the path text `p`, then its tail. -/
def withPath (url : Url) (p cs : List Char) : Url :=
  let (p, _, tail) := readPath (isSpecial url.scheme) (url.scheme == "file") p cs
  withTail { url with path := .segments (segmentsOf p) } tail

/-- Read a path from its start, for an address that has or may have a host, then its tail. A
special address always has a path. -/
def pathFrom (url : Url) (cs : List Char) : Url :=
  if isSpecial url.scheme then
    let rest := match cs with
      | c :: more => if isSlash true c then more else cs
      | [] => []
    withPath url ['/'] rest
  else
    match cs with
    | '/' :: more => withPath url ['/'] more
    | [] => url
    | _ => withTail url cs

/-! ### Authority -/

/-- A port: decimal digits up to 65535 and nothing else; none when empty or the default. -/
def readPort (scheme : String) (cs : List Char) : Except UrlError (Option Nat) :=
  let step := fun (acc : Except UrlError Nat) (c : Char) => do
    let n ← acc
    if c.isDigit then
      let m := n * 10 + (c.toNat - 48)
      if m > 65535 then throw UrlError.badPort else pure m
    else throw UrlError.badPort
  match cs.foldl step (.ok 0) with
  | .error e => .error e
  | .ok n =>
    if cs.isEmpty || (specialPort scheme).join == some n then .ok none else .ok (some n)

/-- The host text up to a `:` outside brackets, and the rest. -/
def splitHostPort : List Char → Bool → List Char × List Char
  | [], _ => ([], [])
  | c :: rest, inside =>
    if c == ':' && !inside then ([], c :: rest)
    else
      let inside := if c == '[' then true else if c == ']' then false else inside
      let (h, p) := splitHostPort rest inside
      (c :: h, p)

/-- Read the authority after `//` (or the slashes a special scheme ignores), then the path. -/
def authorityFrom (url : Url) (cs : List Char) : Except UrlError Url := do
  let special := isSpecial url.scheme
  let (auth, rest) := cs.span fun c => !(c == '/' || c == '?' || c == '#' || (special && c == '\\'))
  let (userinfo, hostPort) := match lastIndexOf '@' auth with
    | some i => (auth.take i, auth.drop (i + 1))
    | none => ([], auth)
  let (user, pass) := match userinfo.findIdx? (· == ':') with
    | some i => (userinfo.take i, userinfo.drop (i + 1))
    | none => (userinfo, [])
  let (hostText, portPart) := splitHostPort hostPort false
  let hostStr := String.ofList hostText
  if special && hostText.isEmpty then throw .emptyHost
  let host ← if special then Host.parseSpecial hostStr else Host.parseVerbatim hostStr
  if !special && hostText.isEmpty && !portPart.isEmpty then throw .emptyHost
  let port ← match portPart with
    | ':' :: digits => readPort url.scheme digits
    | _ => pure none
  let url := { url with
    username := percentEncode .userinfo (String.ofList user),
    password := percentEncode .userinfo (String.ofList pass),
    host := some host, port }
  return pathFrom url rest

/-! ### Files -/

/-- Read a `file` address after its scheme, against a `file` base if there is one. -/
def fileFrom (base : Option Url) (cs : List Char) : Except UrlError Url := do
  let url : Url := { scheme := "file", host := some (.domain "") }
  let slash := fun (c : Char) => c == '/' || c == '\\'
  match cs with
  | c :: r =>
    if slash c then
      match r with
      | c2 :: r2 =>
        if slash c2 then
          let (hostText, after) := r2.span fun c => !(slash c || c == '?' || c == '#')
          if isDrive hostText then return withPath url ['/'] r2
          else
            let host ← if hostText.isEmpty then pure (Host.domain "")
              else Host.parseSpecial (String.ofList hostText)
            let host := if host == .domain "localhost" then .domain "" else host
            let rest := match after with
              | d :: more => if slash d then more else after
              | [] => []
            let (p, drive, tail) := readPath true true ['/'] rest
            let host := if drive then .domain "" else host
            return withTail { url with host := some host, path := .segments (segmentsOf p) } tail
        else return fileSlashed url base cs
      | [] => return fileSlashed url base cs
    else
      match base with
      | some b =>
        let url := { url with host := b.host, path := b.path, query := b.query }
        match c with
        | '?' => return withTail url cs
        | '#' => return withTail url cs
        | _ =>
          let start := if startsWithDrive cs then ['/']
            else match b.path with
              | .segments ps => shortenText true (textOf ps)
              | .verbatim _ => []
          return withPath { url with query := none } start cs
      | none => return withPath url ['/'] cs
  | [] =>
    match base with
    | some b => return { b with fragment := none }
    | none => return { url with path := .segments [""] }
where
  /-- After one slash of a `file` address: the base's drive letter carries over, or else its
  host, unless the path starts with a drive letter of its own. -/
  fileSlashed (url : Url) (base : Option Url) (cs : List Char) : Url :=
    let own := startsWithDrive (cs.drop 1)
    let (host, start) := match base with
      | some b =>
        match b.path with
        | .segments (d :: _) =>
          if own then (some (.domain ""), [])
          else if isNormalDrive d.toList then (some (.domain ""), '/' :: d.toList)
          else (b.host, [])
        | _ => (if own then some (.domain "") else b.host, [])
      | none => (some (.domain ""), [])
    withPath { url with host } start cs

/-! ### Whole addresses -/

/-- A scheme: a letter, then letters, digits, `+`, `-` or `.`, up to a `:`; lowercased. -/
def schemeOf : List Char → Option (String × List Char)
  | c :: rest => if c.isAlpha then go [c.toLower] rest else none
  | [] => none
where
  /-- The rest of a scheme, gathered in reverse. -/
  go (acc : List Char) : List Char → Option (String × List Char)
    | ':' :: rest => some (String.ofList acc.reverse, rest)
    | c :: rest =>
      if c.isAlphanum || c == '+' || c == '-' || c == '.' then go (c.toLower :: acc) rest
      else none
    | [] => none

/-- Resolve a reference without a scheme against a base that can be one. A slash or backslash
at its start makes it absolute; two or more of them make it a reference to another host, which
follows `//` if it starts so and all of them if not. -/
def relativeFrom (base : Url) (cs : List Char) : Except UrlError Url := do
  let url : Url := { scheme := base.scheme }
  let inherited := { url with
    username := base.username, password := base.password, host := base.host, port := base.port }
  let slash := fun (c : Char) => c == '/' || c == '\\'
  match cs with
  | [] => return { base with fragment := none }
  | c :: r =>
    if slash c then
      if 2 ≤ (cs.takeWhile slash).length then
        match cs with
        | '/' :: '/' :: more => authorityFrom url more
        | _ => authorityFrom url (cs.dropWhile slash)
      else return withPath inherited ['/'] r
    else if c == '?' then return withTail { inherited with path := base.path } cs
    else if c == '#' then
      return withTail { inherited with path := base.path, query := base.query } cs
    else
      let start := match base.path with
        | .segments ps => popSegment false (textOf ps)
        | .verbatim _ => []
      return withPath inherited (if start.isEmpty then ['/'] else start) cs

/-- The characters of an input, without surrounding controls and spaces, tabs or line breaks. -/
def cleanInput (s : String) : List Char :=
  let cs := (s.toList.dropWhile (·.toNat ≤ 0x20)).reverse.dropWhile (·.toNat ≤ 0x20)
  cs.reverse.filter fun c => c != '\t' && c != '\n' && c != '\r'

/-- Read an address, resolving it against `base` if it has no scheme of its own. -/
def Url.parse (input : String) (base : Option Url := none) : Except UrlError Url := do
  let cs := cleanInput input
  match schemeOf cs with
  | some (scheme, rest) =>
    if scheme == "file" then
      fileFrom (base.filter (·.scheme == "file")) rest
    else if isSpecial scheme then
      let slashes := (rest.takeWhile (isSlash true)).length
      match base with
      | some b =>
        if slashes < 2 && b.scheme == scheme then relativeFrom b rest
        else authorityFrom { scheme } (rest.dropWhile (isSlash true))
      | none => authorityFrom { scheme } (rest.dropWhile (isSlash true))
    else
      match rest with
      | '/' :: '/' :: more => authorityFrom { scheme } more
      | '/' :: _ => return pathFrom { scheme } rest
      | _ =>
        let (p, tail) := rest.span fun c => c != '?' && c != '#'
        return withTail { scheme, path := .verbatim (percentEncode .controls (String.ofList p)) } tail
  | none =>
    match base with
    | none => throw .relativeWithoutBase
    | some b =>
      match b.path with
      | .verbatim _ =>
        match cs with
        | '#' :: _ => return withTail { b with fragment := none } cs
        | _ => throw .relativeToOpaque
      | .segments _ =>
        if b.scheme == "file" then fileFrom (some b) cs else relativeFrom b cs

/-- Resolve a reference against this address. -/
def Url.join (base : Url) (input : String) : Except UrlError Url := Url.parse input (some base)

/-- The path as it is written. -/
def Url.pathText (u : Url) : String :=
  match u.path with
  | .verbatim t => t
  | .segments ps => String.join (ps.map ("/" ++ ·))

/-- The address written back. -/
def Url.href (u : Url) : String :=
  let auth := match u.host with
    | some h =>
      let creds := if u.username.isEmpty && u.password.isEmpty then ""
        else u.username ++ (if u.password.isEmpty then "" else ":" ++ u.password) ++ "@"
      "//" ++ creds ++ h.text ++ (match u.port with | some p => ":" ++ toString p | none => "")
    | none =>
      match u.path with
      | .segments ("" :: _ :: _) => "/."
      | _ => ""
  u.scheme ++ ":" ++ auth ++ u.pathText ++
    (match u.query with | some q => "?" ++ q | none => "") ++
    (match u.fragment with | some f => "#" ++ f | none => "")

/-- The scheme, host and port of an address with a special scheme other than `file`. -/
def Url.tupleOrigin (u : Url) : Option String :=
  if ["http", "https", "ws", "wss", "ftp"].contains u.scheme then
    u.host.map fun h =>
      u.scheme ++ "://" ++ h.text ++ (match u.port with | some p => ":" ++ toString p | none => "")
  else none

/-- The origin of an address, looking through at most `fuel` `blob` addresses to the address
each wraps. -/
def Url.originWithin : Nat → Url → Option String
  | 0, _ => none
  | fuel + 1, u =>
    if u.scheme == "blob" then
      match Url.parse u.pathText with
      | .ok v => Url.originWithin fuel v
      | .error _ => none
    else u.tupleOrigin

/-- The origin of an address as text: its scheme, host and port, the origin of the address a
`blob` address wraps, or `null`. Each wrapped address is shorter than the one around it, so its
length bounds the looking through. -/
def Url.origin (u : Url) : String := (Url.originWithin (u.href.length + 1) u).getD "null"

/-- The query's name and value pairs, form-decoded. -/
def Url.queryPairs (u : Url) : List (String × String) := formPairs (u.query.getD "")

/-- The address with name and value pairs form-encoded onto the end of its query. -/
def Url.appendPairs (u : Url) (pairs : List (String × String)) : Url :=
  let q := u.query.getD ""
  { u with query := some (q ++ (if q.isEmpty then "" else "&") ++ formText pairs) }

end CloudApi.Web
