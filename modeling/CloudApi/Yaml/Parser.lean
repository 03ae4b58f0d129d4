import CloudApi.Yaml.Scanner

/-!
# Parsing YAML into events

The parser turns tokens into the events of a YAML stream: stream and document starts and
ends, scalars, aliases, and the starts and ends of sequences and mappings. Each node carries
its anchor and its tag, and each event has the marks where it starts and stops.

The parser is a state machine over `Phase`. It keeps a stack of phases to come back to, and
a stack of the marks where open collections started, for error messages. Each step reads
what it needs from the scanner and produces one event. Keys and values that are left out
come out as empty plain scalars. A tag's handle is resolved with the document's `%TAG`
directives, then the standard ones: `!` stands for itself and `!!` for
`tag:yaml.org,2002:`.

`Yaml.events` runs the machine to the end of the stream or to the first error. It answers
the events read up to then, and the error, if there was one.
-/

namespace CloudApi.Yaml

/-- The kinds of event. -/
inductive EventKind where
  | streamStart
  | streamEnd
  | documentStart (implicit : Bool)
  | documentEnd (implicit : Bool)
  | alias (name : String)
  | scalar (anchor tag : Option String) (text : String) (plainImplicit quotedImplicit : Bool)
      (style : ScalarStyle)
  | sequenceStart (anchor tag : Option String) (implicit flowStyle : Bool)
  | sequenceEnd
  | mappingStart (anchor tag : Option String) (implicit flowStyle : Bool)
  | mappingEnd
  deriving Inhabited, Repr

/-- An event and where it starts and stops. -/
structure Event where
  kind : EventKind
  start : Mark
  stop : Mark
  deriving Inhabited, Repr

/-- What the parser expects next. -/
inductive Phase where
  | streamStart
  | implicitDocumentStart
  | documentStart
  | documentContent
  | documentEnd
  | blockNode
  | blockNodeOrIndentlessSequence
  | flowNode
  | blockSequenceFirstEntry
  | blockSequenceEntry
  | indentlessSequenceEntry
  | blockMappingFirstKey
  | blockMappingKey
  | blockMappingValue
  | flowSequenceFirstEntry
  | flowSequenceEntry
  | flowSequenceEntryMappingKey
  | flowSequenceEntryMappingValue
  | flowSequenceEntryMappingEnd
  | flowMappingFirstKey
  | flowMappingKey
  | flowMappingValue
  | flowMappingEmptyValue
  | finished
  deriving Inhabited, BEq, Repr

/-- The parser: the scanner, the current phase, the phases to come back to, the marks where
open collections started, and the tag directives of the current document. -/
structure Parser where
  scan : Scanner
  phase : Phase := .streamStart
  phases : List Phase := []
  marks : List Mark := []
  tags : List (String × String) := []
  deriving Inhabited

/-- Parsing steps. -/
abbrev Parse := StateT Parser (Except YamlError)

/-- The standard tag handles. -/
def standardTags : List (String × String) := [("!", "!"), ("!!", "tag:yaml.org,2002:")]

namespace Parse

/-- Run a scanning step. -/
def scan (m : Scan α) : Parse α := fun p => do
  let (a, s) ← m p.scan
  pure (a, { p with scan := s })

/-- The next token. -/
def peek : Parse Token := scan Scan.peekToken

/-- Move past the next token. -/
def advance : Parse Unit := scan Scan.skipToken

/-- Stop with a problem at a mark. -/
def fail (problem : String) (mark : Mark) : Parse α := throw { problem, mark }

/-- Stop with a problem at a mark, while parsing something that began at `start`. -/
def failIn (context : String) (start : Mark) (problem : String) (mark : Mark) : Parse α :=
  throw { problem, mark, context := some (context, start) }

/-- Go on with a phase. -/
def goTo (ph : Phase) : Parse Unit := modify fun p => { p with phase := ph }

/-- Remember a phase to come back to. -/
def pushPhase (ph : Phase) : Parse Unit := modify fun p => { p with phases := ph :: p.phases }

/-- Come back to the last phase remembered. -/
def popPhase : Parse Unit :=
  modify fun p => match p.phases with
    | ph :: rest => { p with phase := ph, phases := rest }
    | [] => { p with phase := .finished }

/-- Remember where a collection started. -/
def pushMark (m : Mark) : Parse Unit := modify fun p => { p with marks := m :: p.marks }

/-- Forget where the innermost collection started, answering it. -/
def popMark : Parse Mark := do
  let p ← get
  match p.marks with
  | m :: rest =>
    set { p with marks := rest }
    pure m
  | [] => pure {}

/-- An empty plain scalar at a mark, for a node that is left out. -/
def empty (m : Mark) : Event := { kind := .scalar none none "" true false .plain, start := m, stop := m }

/-- Whether a token is a directive. -/
def isDirective (t : Token) : Bool :=
  match t.kind with
  | .versionDirective _ _ | .tagDirective _ _ => true
  | _ => false

/-! ### Documents -/

/-- Add a tag directive; a handle already given is an error, or is passed over for the
standard ones. -/
def addTag (handle target : String) (standard : Bool) (m : Mark) : Parse Unit := do
  let p ← get
  if (p.tags.lookup handle).isSome then
    if !standard then fail "found duplicate %TAG directive" m
  else set { p with tags := p.tags ++ [(handle, target)] }

/-- Read the directives in front of a document, then add the standard tag handles. -/
def directives (seenVersion : Bool) : Nat → Parse Unit
  | 0 => pure ()
  | n + 1 => do
    let t ← peek
    match t.kind with
    | .versionDirective major minor =>
      if seenVersion then fail "found duplicate %YAML directive" t.start
      if major != 1 || (minor != 1 && minor != 2) then fail "found incompatible YAML document" t.start
      advance
      directives true n
    | .tagDirective handle target =>
      addTag handle target false t.start
      advance
      directives seenVersion n
    | _ =>
      for (h, v) in standardTags do addTag h v true t.start

/-- Move past document end markers. -/
def skipDocumentEnds : Nat → Parse Token
  | 0 => peek
  | n + 1 => do
    let t ← peek
    if t.kind == .documentEnd then
      advance
      skipDocumentEnds n
    else pure t

/-- The start of a document, explicit with `---` or implicit, or the end of the stream. -/
def documentStart (implicit : Bool) : Parse Event := do
  let t ← if implicit then peek else skipDocumentEnds (← scan Scan.rounds)
  if implicit && !(isDirective t || t.kind == .documentStart || t.kind == .streamEnd) then
    directives false (← scan Scan.rounds)
    pushPhase .documentEnd
    goTo .blockNode
    pure { kind := .documentStart true, start := t.start, stop := t.start }
  else if t.kind != .streamEnd then
    directives false (← scan Scan.rounds)
    let d ← peek
    if d.kind != .documentStart then fail "did not find expected <document start>" d.start
    pushPhase .documentEnd
    goTo .documentContent
    advance
    pure { kind := .documentStart false, start := t.start, stop := d.stop }
  else
    goTo .finished
    advance
    pure { kind := .streamEnd, start := t.start, stop := t.stop }

/-- The content of an explicit document, which may be left out. -/
def documentContent (node : Parse Event) : Parse Event := do
  let t ← peek
  match t.kind with
  | .versionDirective _ _ | .tagDirective _ _ | .documentStart | .documentEnd | .streamEnd =>
    popPhase
    pure (empty t.start)
  | _ => node

/-- The end of a document, explicit with `...` or implicit. -/
def documentEnd : Parse Event := do
  let t ← peek
  let explicit := t.kind == .documentEnd
  if explicit then advance
  modify fun p => { p with tags := [] }
  goTo .documentStart
  pure { kind := .documentEnd (!explicit), start := t.start, stop := if explicit then t.stop else t.start }

/-! ### Nodes -/

/-- The anchor and tag in front of a node, in either order, with the marks where the node
starts and where its properties stop, and the mark of the tag. -/
def properties (t : Token) :
    Parse (Option String × Option (String × String) × Mark × Mark × Mark) := do
  match t.kind with
  | .anchor name =>
    advance
    let u ← peek
    match u.kind with
    | .tag h s =>
      advance
      pure (some name, some (h, s), t.start, u.stop, u.start)
    | _ => pure (some name, none, t.start, t.stop, t.start)
  | .tag h s =>
    advance
    let u ← peek
    match u.kind with
    | .anchor name =>
      advance
      pure (some name, some (h, s), t.start, u.stop, t.start)
    | _ => pure (none, some (h, s), t.start, t.stop, t.start)
  | _ => pure (none, none, t.start, t.start, t.start)

/-- The full tag of a node from its handle and suffix. A verbatim tag has no handle. -/
def resolveTag (tagged : Option (String × String)) (start tagMark : Mark) :
    Parse (Option String) := do
  match tagged with
  | none => pure none
  | some (handle, suffix) =>
    if handle.isEmpty then pure (some suffix)
    else match (← get).tags.lookup handle with
      | some target => pure (some (target ++ suffix))
      | none => failIn "while parsing a node" start "found undefined tag handle" tagMark

/-- A node: an alias, a scalar, the start of a collection, or an empty scalar when only an
anchor or a tag is given. In a block mapping a value may be a sequence at the mapping's own
indentation. -/
def node (block indentless : Bool) : Parse Event := do
  let t ← peek
  if let .alias name := t.kind then
    popPhase
    advance
    return { kind := .alias name, start := t.start, stop := t.stop }
  let (anchor, tagged, start, stop, tagMark) ← properties t
  let t ← peek
  let tag ← resolveTag tagged start tagMark
  let implicit := tag.isNone || tag == some ""
  if indentless && t.kind == .blockEntry then
    goTo .indentlessSequenceEntry
    return { kind := .sequenceStart anchor tag implicit false, start, stop := t.stop }
  match t.kind with
  | .scalar text style =>
    let plainImplicit := (style == .plain && tag.isNone) || tag == some "!"
    let quotedImplicit := !plainImplicit && tag.isNone
    popPhase
    advance
    pure { kind := .scalar anchor tag text plainImplicit quotedImplicit style, start, stop := t.stop }
  | .flowSequenceStart =>
    goTo .flowSequenceFirstEntry
    pure { kind := .sequenceStart anchor tag implicit true, start, stop := t.stop }
  | .flowMappingStart =>
    goTo .flowMappingFirstKey
    pure { kind := .mappingStart anchor tag implicit true, start, stop := t.stop }
  | .blockSequenceStart =>
    if block then
      goTo .blockSequenceFirstEntry
      pure { kind := .sequenceStart anchor tag implicit false, start, stop := t.stop }
    else bare anchor tag implicit start stop t
  | .blockMappingStart =>
    if block then
      goTo .blockMappingFirstKey
      pure { kind := .mappingStart anchor tag implicit false, start, stop := t.stop }
    else bare anchor tag implicit start stop t
  | _ => bare anchor tag implicit start stop t
where
  /-- A node with properties and no content is an empty scalar; with neither it is an error. -/
  bare (anchor tag : Option String) (implicit : Bool) (start stop : Mark) (t : Token) :
      Parse Event := do
    if anchor.isSome || tag.isSome then
      popPhase
      pure { kind := .scalar anchor tag "" implicit false .plain, start, stop }
    else
      failIn (if block then "while parsing a block node" else "while parsing a flow node") start
        "did not find expected node content" t.start

/-! ### Block collections -/

/-- An entry of a block sequence, or its end. -/
def blockSequenceEntry (first : Bool) : Parse Event := do
  if first then
    pushMark (← peek).start
    advance
  let t ← peek
  match t.kind with
  | .blockEntry =>
    advance
    let u ← peek
    if u.kind == .blockEntry || u.kind == .blockEnd then
      goTo .blockSequenceEntry
      pure (empty t.stop)
    else
      pushPhase .blockSequenceEntry
      node true false
  | .blockEnd =>
    popPhase
    let _ ← popMark
    advance
    pure { kind := .sequenceEnd, start := t.start, stop := t.stop }
  | _ =>
    failIn "while parsing a block collection" (← popMark) "did not find expected '-' indicator"
      t.start

/-- An entry of a sequence that stands at its mapping's indentation, or its end. -/
def indentlessSequenceEntry : Parse Event := do
  let t ← peek
  if t.kind == .blockEntry then
    advance
    let u ← peek
    if u.kind == .blockEntry || u.kind == .key || u.kind == .value || u.kind == .blockEnd then
      goTo .indentlessSequenceEntry
      pure (empty t.stop)
    else
      pushPhase .indentlessSequenceEntry
      node true false
  else
    popPhase
    pure { kind := .sequenceEnd, start := t.start, stop := t.start }

/-- A key of a block mapping, or its end. -/
def blockMappingKey (first : Bool) : Parse Event := do
  if first then
    pushMark (← peek).start
    advance
  let t ← peek
  match t.kind with
  | .key =>
    advance
    let u ← peek
    if u.kind == .key || u.kind == .value || u.kind == .blockEnd then
      goTo .blockMappingValue
      pure (empty t.stop)
    else
      pushPhase .blockMappingValue
      node true true
  | .blockEnd =>
    popPhase
    let _ ← popMark
    advance
    pure { kind := .mappingEnd, start := t.start, stop := t.stop }
  | _ =>
    failIn "while parsing a block mapping" (← popMark) "did not find expected key" t.start

/-- A value of a block mapping, which may be left out. -/
def blockMappingValue : Parse Event := do
  let t ← peek
  if t.kind == .value then
    advance
    let u ← peek
    if u.kind == .key || u.kind == .value || u.kind == .blockEnd then
      goTo .blockMappingKey
      pure (empty t.stop)
    else
      pushPhase .blockMappingKey
      node true true
  else
    goTo .blockMappingKey
    pure (empty t.start)

/-! ### Flow collections -/

/-- The token after the `,` that must separate flow entries. -/
def separated (t : Token) (context problem : String) : Parse Token := do
  if t.kind == .flowEntry then
    advance
    peek
  else failIn context (← popMark) problem t.start

/-- An entry of a flow sequence, or its end. A `key: value` entry is a one-pair mapping. -/
def flowSequenceEntry (first : Bool) : Parse Event := do
  if first then
    pushMark (← peek).start
    advance
  let t ← peek
  let t ←
    if t.kind != .flowSequenceEnd && !first then
      separated t "while parsing a flow sequence" "did not find expected ',' or ']'"
    else pure t
  if t.kind == .key then
    goTo .flowSequenceEntryMappingKey
    advance
    pure { kind := .mappingStart none none true true, start := t.start, stop := t.stop }
  else if t.kind != .flowSequenceEnd then
    pushPhase .flowSequenceEntry
    node false false
  else
    popPhase
    let _ ← popMark
    advance
    pure { kind := .sequenceEnd, start := t.start, stop := t.stop }

/-- The key of a one-pair mapping in a flow sequence. -/
def flowSequenceEntryMappingKey : Parse Event := do
  let t ← peek
  if t.kind == .value || t.kind == .flowEntry || t.kind == .flowSequenceEnd then
    goTo .flowSequenceEntryMappingValue
    pure (empty t.start)
  else
    pushPhase .flowSequenceEntryMappingValue
    node false false

/-- The value of a one-pair mapping in a flow sequence. -/
def flowSequenceEntryMappingValue : Parse Event := do
  let t ← peek
  if t.kind == .value then
    advance
    let u ← peek
    if u.kind != .flowEntry && u.kind != .flowSequenceEnd then
      pushPhase .flowSequenceEntryMappingEnd
      node false false
    else
      goTo .flowSequenceEntryMappingEnd
      pure (empty u.start)
  else
    goTo .flowSequenceEntryMappingEnd
    pure (empty t.start)

/-- The end of a one-pair mapping in a flow sequence. -/
def flowSequenceEntryMappingEnd : Parse Event := do
  let t ← peek
  goTo .flowSequenceEntry
  pure { kind := .mappingEnd, start := t.start, stop := t.start }

/-- A key of a flow mapping, or its end. -/
def flowMappingKey (first : Bool) : Parse Event := do
  if first then
    pushMark (← peek).start
    advance
  let t ← peek
  let t ←
    if t.kind != .flowMappingEnd && !first then
      separated t "while parsing a flow mapping" "did not find expected ',' or '\x7d'"
    else pure t
  if t.kind == .key then
    advance
    let u ← peek
    if u.kind == .value || u.kind == .flowEntry || u.kind == .flowMappingEnd then
      goTo .flowMappingValue
      pure (empty u.start)
    else
      pushPhase .flowMappingValue
      node false false
  else if t.kind != .flowMappingEnd then
    pushPhase .flowMappingEmptyValue
    node false false
  else
    popPhase
    let _ ← popMark
    advance
    pure { kind := .mappingEnd, start := t.start, stop := t.stop }

/-- A value of a flow mapping, which may be left out, or is when the key stood alone. -/
def flowMappingValue (left : Bool) : Parse Event := do
  let t ← peek
  if left then
    goTo .flowMappingKey
    pure (empty t.start)
  else if t.kind == .value then
    advance
    let u ← peek
    if u.kind != .flowEntry && u.kind != .flowMappingEnd then
      pushPhase .flowMappingKey
      node false false
    else
      goTo .flowMappingKey
      pure (empty u.start)
  else
    goTo .flowMappingKey
    pure (empty t.start)

/-! ### The machine -/

/-- One step: the next event of the phase the parser is in. -/
def step : Phase → Parse Event
  | .streamStart => do
    let t ← peek
    goTo .implicitDocumentStart
    advance
    pure { kind := .streamStart, start := t.start, stop := t.stop }
  | .implicitDocumentStart => documentStart true
  | .documentStart => documentStart false
  | .documentContent => documentContent (node true false)
  | .documentEnd => documentEnd
  | .blockNode => node true false
  | .blockNodeOrIndentlessSequence => node true true
  | .flowNode => node false false
  | .blockSequenceFirstEntry => blockSequenceEntry true
  | .blockSequenceEntry => blockSequenceEntry false
  | .indentlessSequenceEntry => indentlessSequenceEntry
  | .blockMappingFirstKey => blockMappingKey true
  | .blockMappingKey => blockMappingKey false
  | .blockMappingValue => blockMappingValue
  | .flowSequenceFirstEntry => flowSequenceEntry true
  | .flowSequenceEntry => flowSequenceEntry false
  | .flowSequenceEntryMappingKey => flowSequenceEntryMappingKey
  | .flowSequenceEntryMappingValue => flowSequenceEntryMappingValue
  | .flowSequenceEntryMappingEnd => flowSequenceEntryMappingEnd
  | .flowMappingFirstKey => flowMappingKey true
  | .flowMappingKey => flowMappingKey false
  | .flowMappingValue => flowMappingValue false
  | .flowMappingEmptyValue => flowMappingValue true
  | .finished => pure { kind := .streamEnd, start := {}, stop := {} }

end Parse

/-- The events of a parser until the stream ends or an error stops it, most recent first. -/
def Parser.run : Nat → Parser → List Event → List Event × Option YamlError
  | 0, _, acc => (acc, none)
  | n + 1, p, acc =>
    if p.phase == .finished then (acc, none)
    else match Parse.step p.phase p with
      | .ok (e, p) => Parser.run n p (e :: acc)
      | .error err => (acc, some err)

/-- The events of a YAML text, in order, and the error that stopped them, if one did. A
character the text may not hold stops it before any event. -/
def events (text : String) : List Event × Option YamlError :=
  match firstForbidden text with
  | some offset => ([], some { problem := "control characters are not allowed", offset })
  | none =>
    let (es, err) := Parser.run (8 * text.length + 16) { scan := Scanner.ofText text } []
    (es.reverse, err)

end CloudApi.Yaml
