/-!
# Header fields

A header list keeps fields in the order they were added, a name more than once when it was added
more than once. Names are compared without regard to ASCII case and kept in lower case. "The"
header of a name is its first field; as text it exists only when its value is visible ASCII and
tabs (`Headers.text?`). A value may be marked sensitive, and is then never shown.
-/

namespace CloudApi.Http

/-- A header field: a lower-case name, the bytes of its value, and whether the value is marked
sensitive, never to be shown. -/
structure Header where
  name : String
  value : ByteArray
  sensitive : Bool := false

/-- Header fields in the order they were added. -/
abbrev Headers := List Header

/-- A byte allowed in a header name: letters, digits and ``!#$%&'*+-.^_`|~``. -/
def isNameByte (c : Char) : Bool :=
  c.isAlphanum || "!#$%&'*+-.^_`|~".contains c

/-- Whether text is a header name. -/
def validName (name : String) : Bool :=
  !name.isEmpty && name.all fun c => c.toNat < 128 && isNameByte c

/-- A byte allowed in a header value: visible ASCII, space, tab, or any byte from `0x80`. -/
def isValueByte (b : UInt8) : Bool := (b ≥ 32 && b ≠ 127) || b = 9

/-- Whether bytes are a header value. -/
def validValue (value : ByteArray) : Bool := value.toList.all isValueByte

/-- A byte of a value that reads as text: visible ASCII, space or tab. -/
def isTextByte (b : UInt8) : Bool := (32 ≤ b && b < 127) || b = 9

namespace Headers

/-- Adds a field after those there; the name is kept in lower case. -/
def append (hs : Headers) (name : String) (value : ByteArray) : Headers :=
  hs ++ [{ name := name.toLower, value }]

/-- Puts a field in place of all fields of its name: at the first one's place, else at the end. -/
def insert (hs : Headers) (name : String) (value : ByteArray) (sensitive : Bool := false) :
    Headers :=
  let n := name.toLower
  if hs.any (·.name == n) then
    let (before, rest) := hs.span (·.name != n)
    before ++ ⟨n, value, sensitive⟩ :: rest.filter (·.name != n)
  else hs ++ [⟨n, value, sensitive⟩]

/-- The first value of a name. -/
def get? (hs : Headers) (name : String) : Option ByteArray :=
  (hs.find? (·.name == name.toLower)).map (·.value)

/-- Whether a name is present. -/
def contains (hs : Headers) (name : String) : Bool := (hs.get? name).isSome

/-- The first value of a name as text, when it is visible ASCII and tabs. -/
def text? (hs : Headers) (name : String) : Option String :=
  match hs.get? name with
  | some v => if v.toList.all isTextByte then some (String.ofList (v.toList.map (Char.ofNat ·.toNat)))
      else none
  | none => none

/-- Fields sorted by name; fields of one name keep their order. -/
def sorted (hs : Headers) : Headers :=
  hs.mergeSort fun a b => decide (a.name ≤ b.name)

/-- Fields grouped by name, the names in the order of their first field. -/
def grouped (hs : Headers) : Headers :=
  let names := hs.foldl (fun acc h => if acc.contains h.name then acc else acc ++ [h.name]) []
  names.flatMap fun n => hs.filter (·.name == n)

end Headers

end CloudApi.Http
