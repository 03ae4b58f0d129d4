import CloudApi.Yaml.Scalar

/-!
# Reading typed values from a document

The readers walk a document's items from a position. Each answers a value and the position
after the node it read. An alias is followed to its anchor's node, and the reader goes on
after the alias.

The place of a node is a `Path`: the keys leading to it, separated by dots. An entry whose
key is not a plain scalar shows as `?`, and an alias leaves the path as it was. A complaint
about a node is given the node's mark and path once, by the innermost reader that reports
it. So an error found inside a mapping, such as a field named twice, is placed at the
mapping.

When a reader runs past the last item, the document's error is the answer. If the document
has no error, the answer is that the text ended too soon.

Every reader runs on fuel. Following an alias or reading an entry spends one unit, and a
document's size is always enough.
-/

namespace CloudApi.Yaml

/-- Where a node stands in a document. -/
inductive Path where
  | root
  | key (parent : Path) (name : String)
  | unknown (parent : Path)
  | alias (parent : Path)
  deriving Inhabited

/-- A path as text: `.` for the root, keys joined by dots, `?` for a key that is not a plain
scalar. -/
def Path.text : Path → String
  | .root => "."
  | .key p k => (match p with | .root => "" | _ => p.text ++ ".") ++ k
  | .unknown p => (match p with | .root => "" | _ => p.text ++ ".") ++ "?"
  | .alias p => p.text

/-- What can go wrong reading a value from a document. -/
inductive DecodeError where
  | load (e : LoadError)
  | message (text : String) (place : Option (Mark × Path))
  | endOfStream
  | moreThanOneDocument
  deriving Inhabited

/-- The text of a reading error. A complaint starts with its path, unless that is the root,
and ends with its position, unless that is the very start. -/
def DecodeError.text : DecodeError → String
  | .load e => e.text
  | .message t none => t
  | .message t (some (m, p)) =>
    (if p.text != "." then p.text ++ ": " else "") ++ t ++ (if m.atStart then "" else " at " ++ m.text)
  | .endOfStream => "EOF while parsing a value"
  | .moreThanOneDocument =>
    "deserializing from YAML containing more than one document is not supported"

/-- Place a complaint that has no place yet. -/
def DecodeError.placed (e : DecodeError) (m : Mark) (p : Path) : DecodeError :=
  match e with
  | .message t none => .message t (some (m, p))
  | e => e

/-- Reading results: a value and the position after it. -/
abbrev Reading (α : Type) := Except DecodeError (α × Nat)

namespace Document

/-- What running out of items means in this document. -/
def endError (d : Document) : DecodeError :=
  match d.error with
  | some e => .load e
  | none => .endOfStream

/-- The complaint about an item read where `expected` was wanted. -/
def wrongType (item : Item) (expected : String) : DecodeError :=
  match item with
  | .scalar s => .message (complaint s expected) none
  | .seqStart => .message ("invalid type: sequence, expected " ++ expected) none
  | .mapStart => .message ("invalid type: map, expected " ++ expected) none
  | _ => .endOfStream

/-- The position after the node at `pos`, at nesting `depth`: collections are skipped whole and
aliases are not followed. Running out of items stops there. -/
def skipNode (d : Document) : Nat → Nat → Nat → Nat
  | 0, _, pos => pos
  | fuel + 1, depth, pos =>
    match d.items[pos]? with
    | none => pos
    | some (item, _) =>
      match item with
      | .seqStart | .mapStart => skipNode d fuel (depth + 1) (pos + 1)
      | .seqEnd | .mapEnd => if depth ≤ 1 then pos + 1 else skipNode d fuel (depth - 1) (pos + 1)
      | .void => pos + 1
      | _ => if depth == 0 then pos + 1 else skipNode d fuel depth (pos + 1)

/-- A scalar's text, whatever its tag; a collection is a complaint. -/
def readText (d : Document) (expected : String) : Nat → Path → Nat → Reading String
  | 0, _, _ => .error d.endError
  | fuel + 1, path, pos =>
    match d.items[pos]? with
    | none => .error d.endError
    | some (item, mark) =>
      let r : Except DecodeError String := match item with
        | .scalar s => .ok s.value
        | .alias n => (readText d expected fuel (.alias path) (d.target n)).map (·.1)
        | other => .error (wrongType other expected)
      match r with
      | .ok v => .ok (v, pos + 1)
      | .error e => .error (e.placed mark path)

/-- Whether a scalar holds something, for an optional value: a plain scalar that is empty or a
null word holds nothing, and so does one tagged `!!null`, which must then be a null word. -/
def holdsValue (s : Scalar) : Except DecodeError Bool :=
  if s.style != .plain then .ok true
  else match s.tag with
    | some t =>
      if t == nullTag then
        if isNullWord s.value then .ok false
        else .error (.message ("invalid value: string " ++ Quoted.text s.value ++ ", expected null") none)
      else .ok true
    | none => .ok (!s.value.isEmpty && !isNullWord s.value)

/-- An optional value: nothing for an empty document or a scalar that holds nothing, otherwise
what `inner` reads there. -/
def readOption (d : Document) (inner : Nat → Path → Nat → Reading α) :
    Nat → Path → Nat → Reading (Option α)
  | 0, _, _ => .error d.endError
  | fuel + 1, path, pos =>
    match d.items[pos]? with
    | none => .error d.endError
    | some (item, _) =>
      let present := fun (_ : Unit) =>
        (inner fuel path pos).map fun (v, p) => (some v, p)
      match item with
      | .alias n => (readOption d inner fuel (.alias path) (d.target n)).map fun (v, _) => (v, pos + 1)
      | .void => .ok (none, pos + 1)
      | .scalar s =>
        match holdsValue s with
        | .error e => .error e
        | .ok false => .ok (none, pos + 1)
        | .ok true => present ()
      | _ => present ()

/-- The path of the value of an entry whose key is the item at `pos`. -/
def valuePath (d : Document) (path : Path) (pos : Nat) : Path :=
  match d.items[pos]? with
  | some (.scalar s, _) => .key path s.value
  | _ => .unknown path

/-- The entries of a mapping from `pos` to its end, each read by `entry` into the accumulator. -/
def readEntries (d : Document) (entry : σ → Nat → Reading σ) : Nat → σ → Nat → Reading σ
  | 0, _, _ => .error d.endError
  | fuel + 1, acc, pos =>
    match d.items[pos]? with
    | none => .error d.endError
    | some (.mapEnd, _) | some (.void, _) => .ok (acc, pos)
    | some _ =>
      match entry acc pos with
      | .ok (acc, p) => readEntries d entry fuel acc p
      | .error e => .error e

/-- A mapping read entry by entry from `init`: an empty plain scalar or an empty document is an
empty mapping. `entry` is given the mapping's path. -/
def readMap (d : Document) (expected : String) (entry : Path → σ → Nat → Reading σ) (init : σ) :
    Nat → Path → Nat → Reading σ
  | 0, _, _ => .error d.endError
  | fuel + 1, path, pos =>
    match d.items[pos]? with
    | none => .error d.endError
    | some (item, mark) =>
      let r : Reading σ := match item with
        | .alias n =>
          (readMap d expected entry init fuel (.alias path) (d.target n)).map fun (v, _) => (v, pos + 1)
        | .mapStart =>
          match readEntries d (entry path) d.items.size init (pos + 1) with
          | .ok (v, p) => .ok (v, p + 1)
          | .error e => .error e
        | .void => .ok (init, pos + 1)
        | .scalar s =>
          if s.value.isEmpty && s.style == .plain then .ok (init, pos + 1)
          else .error (wrongType item expected)
        | _ => .error (wrongType item expected)
      r.mapError (·.placed mark path)

end Document

end CloudApi.Yaml
