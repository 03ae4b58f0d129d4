import CloudApi.Yaml.Parser

/-!
# YAML documents

A document is the flat list of its nodes' items in the order they were read. Each item is
a scalar, an alias, or the start or end of a sequence or mapping, with the mark where it
starts. A stream with no document at all gives one `void` item, so that reading it finds
nothing rather than failing.

Anchors are numbered as they are defined in a document. The number of a new anchor is how
many names the document has anchored so far. A name defined again keeps one entry, so a
later new name can take a number already in use, and then the later node wins that number.
An alias names the number its anchor has when the alias is read. An alias to a name not yet
anchored stops the document with an error at the alias. So does any syntax error. The items
read before the error stay, so that whatever can be read from them still is.

`Yaml.load` reads the first document of a text. It also tells whether anything follows that
document other than the end of the stream, since a second document is not allowed.
-/

namespace CloudApi.Yaml

/-- A scalar as read: its text, its tag if it has one, and how it was written. -/
structure Scalar where
  value : String
  tag : Option String
  style : ScalarStyle
  deriving Inhabited, Repr

/-- One item of a document. An alias holds the number of the anchor it names. -/
inductive Item where
  | alias (anchor : Nat)
  | scalar (s : Scalar)
  | seqStart
  | seqEnd
  | mapStart
  | mapEnd
  | void
  deriving Inhabited, Repr

/-- Why a document stopped early: a syntax error, or an alias naming no anchor. -/
inductive LoadError where
  | malformed (e : YamlError)
  | unknownAnchor (mark : Mark)
  deriving Inhabited

/-- The text of a load error. -/
def LoadError.text : LoadError → String
  | .malformed e => e.message
  | .unknownAnchor m => "unknown anchor" ++ (if m.atStart then "" else " at " ++ m.text)

/-- A document: its items with their marks, where each anchor's node starts, and the error
that stopped it, if one did. -/
structure Document where
  items : Array (Item × Mark) := #[]
  anchors : List (String × Nat) := []
  targets : List (Nat × Nat) := []
  error : Option LoadError := none
  deriving Inhabited

namespace Document

/-- The position of the node an anchor number names: the latest node given that number. -/
def target (d : Document) (anchor : Nat) : Nat := (d.targets.lookup anchor).getD 0

/-- Give the next item an anchor, if it has one. -/
def anchorNext (d : Document) : Option String → Document
  | none => d
  | some name =>
    let number := d.anchors.length
    { d with anchors := (name, number) :: d.anchors.filter (·.1 != name),
             targets := (number, d.items.size) :: d.targets }

/-- Append an item. -/
def add (d : Document) (item : Item) (m : Mark) : Document := { d with items := d.items.push (item, m) }

end Document

/-- A stream's first document, and whether something other than the end of the stream follows
it. -/
structure Stream where
  first : Document
  more : Bool
  deriving Inhabited

/-- Read the first document from a stream's events: `error` is what stopped the events early,
if anything did. -/
def loadFirst (error : Option YamlError) : List Event → Document → Stream
  | [], d => { first := { d with error := error.map .malformed }, more := false }
  | e :: rest, d =>
    match e.kind with
    | .streamStart | .documentStart _ => loadFirst error rest d
    | .streamEnd =>
      { first := if d.items.isEmpty then d.add .void e.start else d, more := false }
    | .documentEnd _ =>
      let more := match rest with
        | [] => true
        | n :: _ => match n.kind with
          | .streamEnd => false
          | _ => true
      { first := d, more }
    | .alias name =>
      match d.anchors.lookup name with
      | some n => loadFirst error rest (d.add (.alias n) e.start)
      | none => { first := { d with error := some (.unknownAnchor e.start) }, more := false }
    | .scalar anchor tag text _ _ style =>
      loadFirst error rest ((d.anchorNext anchor).add (.scalar { value := text, tag, style }) e.start)
    | .sequenceStart anchor _ _ _ => loadFirst error rest ((d.anchorNext anchor).add .seqStart e.start)
    | .sequenceEnd => loadFirst error rest (d.add .seqEnd e.start)
    | .mappingStart anchor _ _ _ => loadFirst error rest ((d.anchorNext anchor).add .mapStart e.start)
    | .mappingEnd => loadFirst error rest (d.add .mapEnd e.start)

/-- The first document of a YAML text, and whether anything follows it. -/
def load (text : String) : Stream :=
  let (es, err) := events text
  loadFirst err es {}

end CloudApi.Yaml
