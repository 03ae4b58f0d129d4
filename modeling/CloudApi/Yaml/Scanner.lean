import CloudApi.Yaml.Token
import CloudApi.Text.Utf8

/-!
# Scanning YAML

The scanner cuts a YAML text into tokens on demand. It reads one token at a time and queues
them. A token is handed out only when nothing scanned later can still put a token in front of
it.

That can happen because of the one piece of look-behind YAML has: a *simple key*. A scalar,
flow collection, anchor or tag may turn out to be a mapping key when a `:` follows it on the
same line, within 1024 bytes. So each flow level remembers where its last candidate
started, and the number the candidate's first token has in the stream. When the `:` comes, a
`key` token is put in at that number, and in block context also the start of a block mapping
if the key opens a deeper indentation. A candidate that can no longer be a key is forgotten.
When a candidate *had* to be a key because it stands at the indentation of a block mapping,
forgetting it is the error "could not find expected ':'".

Indentation opens and closes block collections: a deeper entry or key opens one, and every
line that starts to the left of an open one closes it with a `blockEnd` token. Inside flow
brackets indentation means nothing.

Every loop runs for at most as many rounds as characters are left, plus two, and each round
reads a character or stops. So the budget never runs out before the loop ends by itself.
-/

namespace CloudApi.Yaml

/-- Where a simple key could start: whether it still can, whether it must (a block mapping key
at its indentation), the number of its first token in the stream, and its mark. -/
structure PendingKey where
  possible : Bool := false
  required : Bool := false
  number : Nat := 0
  mark : Mark := {}
  deriving Inhabited

/-- Whether a pending key can no longer be one at `now`: the line ended, or it is too long. -/
def PendingKey.stale (k : PendingKey) (now : Mark) : Bool :=
  k.possible && (k.mark.line < now.line || k.mark.index + 1024 < now.index)

/-- A pending key, no longer possible when it is stale at `now`. -/
def PendingKey.forgetIfStale (now : Mark) (k : PendingKey) : PendingKey :=
  if k.stale now then { k with possible := false } else k

/-- The scanner: the text, the place reached, tokens scanned but not handed out, how many were
handed out, the flow depth, the indentation of open block collections, whether a simple key
may start here, and the pending key of each flow level, innermost first. -/
structure Scanner where
  text : Array Char
  pos : Nat := 0
  mark : Mark := {}
  queue : List Token := []
  taken : Nat := 0
  started : Bool := false
  flow : Nat := 0
  indent : Int := -1
  indents : List Int := []
  keyAllowed : Bool := false
  keys : List PendingKey := []
  deriving Inhabited

/-- A scanner over a text, before its first token. -/
def Scanner.ofText (t : String) : Scanner := { text := t.toList.toArray }

/-- Scanning steps: they change the scanner or stop with an error. -/
abbrev Scan := StateT Scanner (Except YamlError)

namespace Scan

/-! ### Reading characters -/

/-- The character `k` places ahead, or the end character past the end. -/
def ahead (k : Nat) : Scan Char := do
  let s ← get
  pure (s.text.getD (s.pos + k) endChar)

/-- The current character. -/
def cur : Scan Char := ahead 0

/-- The current mark. -/
def here : Scan Mark := do pure (← get).mark

/-- Rounds enough for a loop that reads a character each round. -/
def rounds : Scan Nat := do
  let s ← get
  pure (s.text.size - s.pos + 2)

/-- Move one character along the line. -/
def skip : Scan Unit :=
  modify fun s =>
    let width := (s.text.getD s.pos endChar).utf8Size
    { s with pos := s.pos + 1,
             mark := { s.mark with index := s.mark.index + width, column := s.mark.column + 1 } }

/-- Move `n` characters along the line. -/
def skipN : Nat → Scan Unit
  | 0 => pure ()
  | n + 1 => do
    skip
    skipN n

/-- Move past a line break, CR LF counting as one. Nothing happens elsewhere. -/
def skipLine : Scan Unit := do
  let c ← cur
  let d ← ahead 1
  if c == '\r' && d == '\n' then
    modify fun s =>
      { s with pos := s.pos + 2,
               mark := { index := s.mark.index + 2, line := s.mark.line + 1, column := 0 } }
  else if isBreak c then
    modify fun s =>
      { s with pos := s.pos + 1,
               mark := { index := s.mark.index + c.utf8Size, line := s.mark.line + 1, column := 0 } }

/-- Read a line break as a scalar keeps it: CR LF, CR, LF and NEL become a line feed, the line
and paragraph separators stay as they are. Empty when not at a break. -/
def readBreak : Scan String := do
  let c ← cur
  if isBreak c then
    skipLine
    pure (if c == '\u2028' || c == '\u2029' then String.singleton c else "\n")
  else pure ""

/-- Move past characters while they pass a test. -/
def skipWhile (p : Char → Bool) : Nat → Scan Unit
  | 0 => pure ()
  | n + 1 => do
    if p (← cur) then
      skip
      skipWhile p n

/-- Read characters while they pass a test. -/
def readWhile (p : Char → Bool) : Nat → String → Scan String
  | 0, acc => pure acc
  | n + 1, acc => do
    let c ← cur
    if p c then
      skip
      readWhile p n (acc.push c)
    else pure acc

/-- Whether three dashes or three dots stand here, then a blank or the end. -/
def atDocumentIndicator : Scan Bool := do
  let a ← ahead 0
  let b ← ahead 1
  let c ← ahead 2
  let d ← ahead 3
  pure ((a == '-' || a == '.') && b == a && c == a && isBlankOrEnd d)

/-- Stop with a problem at the current mark. -/
def fail (problem : String) : Scan α := do
  throw { problem, mark := (← get).mark }

/-- Stop with a problem at the current mark, while reading something that began at `start`. -/
def failIn (context : String) (start : Mark) (problem : String) : Scan α := do
  throw { problem, mark := (← get).mark, context := some (context, start) }

/-- Queue a token. -/
def push (kind : TokenKind) (start stop : Mark) : Scan Unit :=
  modify fun s => { s with queue := s.queue ++ [{ kind, start, stop }] }

/-! ### Simple keys -/

/-- Forget the innermost pending key. One that had to be a key is an error. -/
def dropKey : Scan Unit := do
  let s ← get
  match s.keys with
  | k :: rest =>
    if k.possible && k.required then
      throw { problem := "could not find expected ':'", mark := s.mark,
              context := some ("while scanning a simple key", k.mark) }
    set { s with keys := { k with possible := false } :: rest }
  | [] => pure ()

/-- Remember that a simple key may start here, if one may. -/
def saveKey : Scan Unit := do
  let s ← get
  if s.keyAllowed then
    let k : PendingKey :=
      { possible := true, required := s.flow == 0 && s.indent == (s.mark.column : Int),
        number := s.taken + s.queue.length, mark := s.mark }
    dropKey
    modify fun s => { s with keys := k :: s.keys.tail }

/-- Forget the pending keys that can no longer be keys; the outermost one that had to be a key
is an error. -/
def dropStaleKeys : Scan Unit := do
  let s ← get
  match s.keys.reverse.find? (fun k => k.stale s.mark && k.required) with
  | some k =>
    throw { problem := "could not find expected ':'", mark := s.mark,
            context := some ("while scanning a simple key", k.mark) }
  | none =>
    set { s with keys := s.keys.map (PendingKey.forgetIfStale s.mark) }

/-! ### Indentation -/

/-- Open a block collection at `column` when it is deeper than the current indentation. Its
start token goes at stream number `number`, or at the end of the queue. -/
def rollIndent (column : Int) (number : Option Nat) (kind : TokenKind) (mark : Mark) :
    Scan Unit :=
  modify fun s =>
    if s.flow == 0 && s.indent < column then
      let t : Token := { kind, start := mark, stop := mark }
      let queue := match number with
        | none => s.queue ++ [t]
        | some n => s.queue.insertIdx (n - s.taken) t
      { s with indents := s.indent :: s.indents, indent := column, queue }
    else s

/-- The indentation left and the block ends produced when closing every block collection
deeper than `column`. -/
def closeBlocks (column : Int) (mark : Mark) (indent : Int) : List Int → Int × List Int × List Token
  | [] => (indent, [], [])
  | i :: rest =>
    if indent > column then
      let (ind, inds, ends) := closeBlocks column mark i rest
      (ind, inds, { kind := .blockEnd, start := mark, stop := mark } :: ends)
    else (indent, i :: rest, [])

/-- Close every block collection deeper than `column`. -/
def unrollIndent (column : Int) : Scan Unit :=
  modify fun s =>
    if s.flow == 0 then
      let (indent, indents, ends) := closeBlocks column s.mark s.indent s.indents
      { s with indent, indents, queue := s.queue ++ ends }
    else s

/-! ### Between tokens -/

/-- Move past blanks, comments and line breaks to the next token. A byte-order mark may start a
line. Tabs are skipped only inside flow brackets or where no simple key may start, so a tab
cannot stand for indentation. -/
def toNextToken : Nat → Scan Unit
  | 0 => pure ()
  | n + 1 => do
    if (← get).mark.column == 0 && (← cur) == '\uFEFF' then skip
    let s ← get
    let tabs := s.flow > 0 || !s.keyAllowed
    skipWhile (fun c => c == ' ' || (tabs && c == '\t')) (← rounds)
    if (← cur) == '#' then skipWhile (fun c => !isBreakOrEnd c) (← rounds)
    if isBreak (← cur) then
      skipLine
      if (← get).flow == 0 then modify fun s => { s with keyAllowed := true }
      toNextToken n

/-! ### Directives -/

/-- One number of a `%YAML` directive: at most nine digits. -/
def versionNumber (start : Mark) : Nat → Nat → Nat → Scan Nat
  | 0, _, value => pure value
  | n + 1, length, value => do
    let c ← cur
    if c.isDigit then
      if length + 1 > 9 then
        failIn "while scanning a %YAML directive" start "found extremely long version number"
      skip
      versionNumber start n (length + 1) (10 * value + (c.toNat - 48))
    else if length == 0 then
      failIn "while scanning a %YAML directive" start "did not find expected version number"
    else pure value

/-- The value of a `%YAML` directive: major and minor number. -/
def versionValue (start : Mark) : Scan TokenKind := do
  skipWhile isBlank (← rounds)
  let major ← versionNumber start (← rounds) 0 0
  if (← cur) != '.' then
    failIn "while scanning a %YAML directive" start "did not find expected digit or '.' character"
  skip
  let minor ← versionNumber start (← rounds) 0 0
  pure (.versionDirective major minor)

/-- A tag handle: `!`, `!!` or `!word!`. In a tag a lone `!` and a word may follow. -/
def tagHandle (directive : Bool) (start : Mark) : Scan String := do
  if (← cur) != '!' then
    failIn (if directive then "while scanning a tag directive" else "while scanning a tag") start
      "did not find expected '!'"
  skip
  let handle ← readWhile isWordChar (← rounds) "!"
  if (← cur) == '!' then
    skip
    pure (handle.push '!')
  else if directive && handle != "!" then
    failIn "while parsing a tag directive" start "did not find expected '!'"
  else pure handle

/-- The context of errors inside a tag or a `%TAG` directive. -/
def tagContext (directive : Bool) : String :=
  if directive then "while parsing a %TAG directive" else "while parsing a tag"

/-- The octets of one URI escape sequence `%XX…` spelling a UTF-8 character. -/
def uriEscape (directive : Bool) (start : Mark) : Nat → Nat → List UInt8 → Scan (List UInt8)
  | 0, _, acc => pure acc
  | n + 1, width, acc => do
    let h ← ahead 1
    let l ← ahead 2
    match (← cur) == '%', hexValue h, hexValue l with
    | true, some a, some b =>
      let octet := 16 * a + b
      let width ←
        if width == 0 then
          let w := if octet < 0x80 then 1 else if octet / 32 == 6 then 2
            else if octet / 16 == 14 then 3 else if octet / 8 == 30 then 4 else 0
          if w == 0 then
            failIn (tagContext directive) start "found an incorrect leading UTF-8 octet"
          pure w
        else
          if octet / 64 != 2 then
            failIn (tagContext directive) start "found an incorrect trailing UTF-8 octet"
          pure width
      skipN 3
      let acc := acc ++ [octet.toUInt8]
      if width == 1 then pure acc else uriEscape directive start n (width - 1) acc
    | _, _, _ => failIn (tagContext directive) start "did not find URI escaped octet"

/-- Whether a character may stand in a tag URI; `flowChars` lets in `,`, `[` and `]` too. -/
def isUriChar (flowChars : Bool) (c : Char) : Bool :=
  isWordChar c || ";/?:@&=+$.%!~*'()".contains c || (flowChars && ",[]".contains c)

/-- The characters of a tag URI, escapes decoded. -/
def uriChars (flowChars directive : Bool) (start : Mark) : Nat → String → Nat → Scan (String × Nat)
  | 0, acc, count => pure (acc, count)
  | n + 1, acc, count => do
    let c ← cur
    if !isUriChar flowChars c then pure (acc, count)
    else if c == '%' then
      let octets ← uriEscape directive start 4 0 []
      uriChars flowChars directive start n (acc ++ Utf8.decodeLossy (ByteArray.mk octets.toArray))
        (count + 1)
    else
      skip
      uriChars flowChars directive start n (acc.push c) (count + 1)

/-- A tag URI following `head` (whose leading `!` is dropped). It may not be empty. -/
def tagUri (flowChars directive : Bool) (head : String) (start : Mark) : Scan String := do
  let (uri, count) ← uriChars flowChars directive start (← rounds) (head.drop 1).toString 0
  if count == 0 && head.isEmpty then
    failIn (tagContext directive) start "did not find expected tag URI"
  pure uri

/-- The value of a `%TAG` directive: a handle, blanks, and the text it stands for. -/
def tagDirectiveValue (start : Mark) : Scan TokenKind := do
  skipWhile isBlank (← rounds)
  let handle ← tagHandle true start
  if !isBlank (← cur) then
    failIn "while scanning a %TAG directive" start "did not find expected whitespace"
  skipWhile isBlank (← rounds)
  let target ← tagUri true true "" start
  if !isBlankOrEnd (← cur) then
    failIn "while scanning a %TAG directive" start "did not find expected whitespace or line break"
  pure (.tagDirective handle target)

/-- A directive line: `%YAML` or `%TAG`, then only a comment. -/
def scanDirective : Scan Unit := do
  let start ← here
  skip
  let name ← readWhile isWordChar (← rounds) ""
  if name.isEmpty then
    failIn "while scanning a directive" start "could not find expected directive name"
  if !isBlankOrEnd (← cur) then
    failIn "while scanning a directive" start "found unexpected non-alphabetical character"
  let kind ←
    if name == "YAML" then versionValue start
    else if name == "TAG" then tagDirectiveValue start
    else failIn "while scanning a directive" start "found unknown directive name"
  let stop ← here
  skipWhile isBlank (← rounds)
  if (← cur) == '#' then skipWhile (fun c => !isBreakOrEnd c) (← rounds)
  if !isBreakOrEnd (← cur) then
    failIn "while scanning a directive" start "did not find expected comment or line break"
  skipLine
  push kind start stop

/-! ### Anchors, aliases and tags -/

/-- An anchor `&name` or an alias `*name`. -/
def scanAnchor (isAlias : Bool) : Scan Unit := do
  let start ← here
  skip
  let name ← readWhile isWordChar (← rounds) ""
  let stop ← here
  let c ← cur
  if name.isEmpty || !(isBlankOrEnd c || "?:,]%@`".contains c || c == '\x7d') then
    failIn (if isAlias then "while scanning an alias" else "while scanning an anchor") start
      "did not find expected alphabetic or numeric character"
  push (if isAlias then .alias name else .anchor name) start stop

/-- A tag: `!<uri>`, `!handle!suffix`, `!suffix` or a lone `!`. -/
def scanTag : Scan Unit := do
  let start ← here
  let (handle, suffix) ←
    if (← ahead 1) == '<' then do
      skipN 2
      let suffix ← tagUri true false "" start
      if (← cur) != '>' then failIn "while scanning a tag" start "did not find the expected '>'"
      skip
      pure ("", suffix)
    else do
      let handle ← tagHandle false start
      if handle.length > 1 && handle.back == '!' then
        let suffix ← tagUri false false "" start
        pure (handle, suffix)
      else
        let suffix ← tagUri false false handle start
        if suffix.isEmpty then pure ("", "!") else pure ("!", suffix)
  let stop ← here
  let c ← cur
  if !isBlankOrEnd c && ((← get).flow == 0 || c != ',') then
    failIn "while scanning a tag" start "did not find expected whitespace or line break"
  push (.tag handle suffix) start stop

/-! ### Block scalars -/

/-- Move past indentation spaces, up to column `indent` when it is known. -/
def skipIndent (indent : Nat) : Nat → Scan Unit
  | 0 => pure ()
  | n + 1 => do
    if (indent == 0 || (← get).mark.column < indent) && (← cur) == ' ' then
      skip
      skipIndent indent n

/-- The indentation and empty lines before a line of a block scalar: the line breaks read, and
the mark after the last one. When the indentation is not known yet it becomes the deepest
column seen, at least one more than the enclosing indentation and at least one. -/
def blockBreaks (indent : Nat) (outer : Int) (start : Mark) :
    Nat → Nat → String → Mark → Scan (Nat × String × Mark)
  | 0, _, breaks, stop => pure (indent, breaks, stop)
  | n + 1, widest, breaks, stop => do
    skipIndent indent (← rounds)
    let column := (← get).mark.column
    let widest := max widest column
    let c ← cur
    if (indent == 0 || column < indent) && c == '\t' then
      failIn "while scanning a block scalar" start
        "found a tab character where an indentation space is expected"
    if isBreak c then
      let b ← readBreak
      blockBreaks indent outer start n widest (breaks ++ b) (← here)
    else
      let indent := if indent == 0 then max (max widest (outer + 1).toNat) 1 else indent
      pure (indent, breaks, stop)

/-- What a block scalar has read so far. -/
structure BlockRun where
  text : String := ""
  leadingBreak : String := ""
  trailingBreaks : String := ""
  leadingBlank : Bool := false
  stop : Mark

/-- The lines of a block scalar at its indentation. In a folded scalar a single line break
between two lines that do not start with a blank becomes a space. -/
def blockLines (literal : Bool) (indent : Nat) (outer : Int) (start : Mark) :
    Nat → BlockRun → Scan BlockRun
  | 0, r => pure r
  | n + 1, r => do
    let c ← cur
    if (← get).mark.column != indent || c == endChar then pure r
    else
      let trailingBlank := isBlank c
      let text :=
        if !literal && r.leadingBreak.startsWith "\n" && !r.leadingBlank && !trailingBlank then
          if r.trailingBreaks.isEmpty then r.text.push ' ' else r.text
        else r.text ++ r.leadingBreak
      let text := text ++ r.trailingBreaks
      let line ← readWhile (fun c => !isBreakOrEnd c) (← rounds) ""
      let leadingBreak ← readBreak
      let (_, trailing, stop) ← blockBreaks indent outer start (← rounds) 0 "" (← here)
      blockLines literal indent outer start n
        { text := text ++ line, leadingBreak, trailingBreaks := trailing,
          leadingBlank := trailingBlank, stop }

/-- The chomping and indentation indicators after `|` or `>`, in either order: chomping `-1`
strips the final line breaks, `1` keeps them all, `0` keeps one. -/
def blockIndicators (start : Mark) : Scan (Int × Nat) := do
  let c ← cur
  if c == '+' || c == '-' then
    skip
    let d ← cur
    let chomp : Int := if c == '+' then 1 else -1
    if d.isDigit then
      if d == '0' then
        failIn "while scanning a block scalar" start "found an indentation indicator equal to 0"
      skip
      pure (chomp, d.toNat - 48)
    else pure (chomp, 0)
  else if c.isDigit then
    if c == '0' then
      failIn "while scanning a block scalar" start "found an indentation indicator equal to 0"
    skip
    let d ← cur
    if d == '+' || d == '-' then
      skip
      pure (if d == '+' then 1 else -1, c.toNat - 48)
    else pure (0, c.toNat - 48)
  else pure (0, 0)

/-- A literal (`|`) or folded (`>`) block scalar. -/
def scanBlockScalar (literal : Bool) : Scan Unit := do
  let start ← here
  skip
  let (chomp, increment) ← blockIndicators start
  skipWhile isBlank (← rounds)
  if (← cur) == '#' then skipWhile (fun c => !isBreakOrEnd c) (← rounds)
  if !isBreakOrEnd (← cur) then
    failIn "while scanning a block scalar" start "did not find expected comment or line break"
  skipLine
  let outer := (← get).indent
  let indent :=
    if increment == 0 then 0
    else if 0 ≤ outer then outer.toNat + increment else increment
  let (indent, breaks, stop) ← blockBreaks indent outer start (← rounds) 0 "" (← here)
  let r ← blockLines literal indent outer start (← rounds) { trailingBreaks := breaks, stop }
  let text := if chomp != -1 then r.text ++ r.leadingBreak else r.text
  let text := if chomp == 1 then text ++ r.trailingBreaks else text
  push (.scalar text (if literal then .literal else .folded)) start r.stop

/-! ### Quoted scalars -/

/-- The character a one-letter escape of a double-quoted scalar stands for. -/
def escapeChar : Char → Option Char
  | '0' => some '\x00'
  | 'a' => some '\x07'
  | 'b' => some '\x08'
  | 't' => some '\t'
  | '\t' => some '\t'
  | 'n' => some '\n'
  | 'v' => some '\x0b'
  | 'f' => some '\x0c'
  | 'r' => some '\r'
  | 'e' => some '\x1b'
  | ' ' => some ' '
  | '"' => some '"'
  | '/' => some '/'
  | '\'' => some '\''
  | '\\' => some '\\'
  | 'N' => some '\x85'
  | '_' => some '\xa0'
  | 'L' => some '\u2028'
  | 'P' => some '\u2029'
  | _ => none

/-- How many hexadecimal digits follow an escape letter: `x` two, `u` four, `U` eight. -/
def escapeWidth : Char → Nat
  | 'x' => 2
  | 'u' => 4
  | 'U' => 8
  | _ => 0

/-- The value of `n` hexadecimal digits from `k` places ahead. -/
def hexDigits (start : Mark) (k : Nat) : Nat → Nat → Scan Nat
  | 0, value => pure value
  | n + 1, value => do
    match hexValue (← ahead k) with
    | some v => hexDigits start (k + 1) n (16 * value + v)
    | none => failIn "while parsing a quoted scalar" start "did not find expected hexadecimal number"

/-- An escape sequence of a double-quoted scalar, at its backslash. -/
def escape (start : Mark) : Scan Char := do
  let e ← ahead 1
  match escapeChar e with
  | some c =>
    skipN 2
    pure c
  | none =>
    let width := escapeWidth e
    if width == 0 then failIn "while parsing a quoted scalar" start "found unknown escape character"
    skipN 2
    let v ← hexDigits start 0 width 0
    if (0xD800 ≤ v && v ≤ 0xDFFF) || v > 0x10FFFF then
      failIn "while parsing a quoted scalar" start "found invalid Unicode character escape code"
    skipN width
    pure (Char.ofNat v)

/-- The characters of a quoted scalar up to a blank, a line break or its closing quote. Answers
whether it stopped at an escaped line break, which joins the lines with nothing between. -/
def quotedRun (single : Bool) (start : Mark) : Nat → String → Scan (String × Bool)
  | 0, text => pure (text, false)
  | n + 1, text => do
    let c ← cur
    let d ← ahead 1
    if isBlankOrEnd c then pure (text, false)
    else if single && c == '\'' && d == '\'' then
      skipN 2
      quotedRun single start n (text.push '\'')
    else if c == (if single then '\'' else '"') then pure (text, false)
    else if !single && c == '\\' && isBreak d then
      skip
      skipLine
      pure (text, true)
    else if !single && c == '\\' then
      let e ← escape start
      quotedRun single start n (text.push e)
    else
      skip
      quotedRun single start n (text.push c)

/-- The blanks and line breaks inside a quoted scalar: blanks before the first break, the first
break, and the breaks after it. -/
def quotedBlanks : Nat → String → String → String → Bool →
    Scan (String × String × String × Bool)
  | 0, ws, lead, trail, broke => pure (ws, lead, trail, broke)
  | n + 1, ws, lead, trail, broke => do
    let c ← cur
    if isBlank c then
      skip
      quotedBlanks n (if broke then ws else ws.push c) lead trail broke
    else if isBreak c then
      let b ← readBreak
      if broke then quotedBlanks n ws lead (trail ++ b) true
      else quotedBlanks n "" b trail true
    else pure (ws, lead, trail, broke)

/-- Lines folded into a scalar: one line feed becomes a space, more keep all but the first. -/
def fold (text ws lead trail : String) (broke : Bool) : String :=
  if broke then
    if lead.startsWith "\n" then
      if trail.isEmpty then text.push ' ' else text ++ trail
    else text ++ lead ++ trail
  else text ++ ws

/-- The body of a quoted scalar, up to its closing quote. -/
def quotedBody (single : Bool) (start : Mark) : Nat → String → Scan String
  | 0, text => pure text
  | n + 1, text => do
    if (← get).mark.column == 0 && (← atDocumentIndicator) then
      failIn "while scanning a quoted scalar" start "found unexpected document indicator"
    if (← cur) == endChar then
      failIn "while scanning a quoted scalar" start "found unexpected end of stream"
    let (text, escapedBreak) ← quotedRun single start (← rounds) text
    if (← cur) == (if single then '\'' else '"') then pure text
    else
      let (ws, lead, trail, broke) ← quotedBlanks (← rounds) "" "" "" escapedBreak
      quotedBody single start n (fold text ws lead trail broke)

/-- A single- or double-quoted scalar. -/
def scanQuoted (single : Bool) : Scan Unit := do
  let start ← here
  skip
  let text ← quotedBody single start (← rounds) ""
  skip
  push (.scalar text (if single then .singleQuoted else .doubleQuoted)) start (← here)

/-! ### Plain scalars -/

/-- What a plain scalar has read so far. -/
structure PlainRun where
  text : String := ""
  leadingBreak : String := ""
  trailingBreaks : String := ""
  whitespaces : String := ""
  broke : Bool := false
  stop : Mark

/-- Whether a character closes a plain scalar inside flow brackets. -/
def isFlowIndicator (c : Char) : Bool := ",[]".contains c || c == '\x7b' || c == '\x7d'

/-- The characters of a plain scalar up to a blank, a line break, `: ` or, inside flow
brackets, a flow indicator. What was skipped before them is folded in first. -/
def plainRun (start : Mark) : Nat → PlainRun → Scan PlainRun
  | 0, r => pure r
  | n + 1, r => do
    let c ← cur
    let d ← ahead 1
    let inFlow := (← get).flow > 0
    if isBlankOrEnd c then pure r
    else if inFlow && c == ':' && (d == '?' || isFlowIndicator d) then
      failIn "while scanning a plain scalar" start "found unexpected ':'"
    else if (c == ':' && isBlankOrEnd d) || (inFlow && isFlowIndicator c) then pure r
    else
      let r :=
        if r.broke then
          { r with text := fold r.text "" r.leadingBreak r.trailingBreaks true,
                   leadingBreak := "", trailingBreaks := "", broke := false }
        else { r with text := r.text ++ r.whitespaces, whitespaces := "" }
      skip
      plainRun start n { r with text := r.text.push c, stop := ← here }

/-- The blanks and line breaks after a piece of a plain scalar. A tab may not stand in the
indentation of a continuation line. -/
def plainBlanks (start : Mark) (indent : Int) : Nat → PlainRun → Scan PlainRun
  | 0, r => pure r
  | n + 1, r => do
    let c ← cur
    if isBlank c then
      if r.broke && ((← get).mark.column : Int) < indent && c == '\t' then
        failIn "while scanning a plain scalar" start "found a tab character that violates indentation"
      skip
      plainBlanks start indent n (if r.broke then r else { r with whitespaces := r.whitespaces.push c })
    else if isBreak c then
      let b ← readBreak
      plainBlanks start indent n
        (if r.broke then { r with trailingBreaks := r.trailingBreaks ++ b }
         else { r with whitespaces := "", leadingBreak := b, broke := true })
    else pure r

/-- The pieces of a plain scalar, line after line while they stay indented deeper than the
enclosing block. A comment or a document marker ends it. -/
def plainLines (start : Mark) (indent : Int) : Nat → PlainRun → Scan PlainRun
  | 0, r => pure r
  | n + 1, r => do
    if (← get).mark.column == 0 && (← atDocumentIndicator) then pure r
    else if (← cur) == '#' then pure r
    else
      let r ← plainRun start (← rounds) r
      let c ← cur
      if !(isBlank c || isBreak c) then pure r
      else
        let r ← plainBlanks start indent (← rounds) r
        let s ← get
        if s.flow == 0 && (s.mark.column : Int) < indent then pure r
        else plainLines start indent n r

/-- A plain scalar. A simple key may start after it when it ended at a line break. -/
def scanPlain : Scan Unit := do
  let s ← get
  let start := s.mark
  let r ← plainLines start (s.indent + 1) (← rounds) { stop := start }
  push (.scalar r.text .plain) start r.stop
  if r.broke then modify fun s => { s with keyAllowed := true }

/-! ### Fetching tokens -/

/-- The stream start. -/
def fetchStreamStart : Scan Unit := do
  modify fun s => { s with indent := -1, keyAllowed := true, started := true, keys := [{}] }
  let m ← here
  push .streamStart m m

/-- The stream end, on a line of its own. -/
def fetchStreamEnd : Scan Unit := do
  modify fun s =>
    if s.mark.column != 0 then { s with mark := { s.mark with column := 0, line := s.mark.line + 1 } }
    else s
  unrollIndent (-1)
  dropKey
  modify fun s => { s with keyAllowed := false }
  let m ← here
  push .streamEnd m m

/-- A directive, a document start or a document end: all block collections close first. -/
def fetchAtLineStart (kind : Option TokenKind) : Scan Unit := do
  unrollIndent (-1)
  dropKey
  modify fun s => { s with keyAllowed := false }
  match kind with
  | none => scanDirective
  | some k =>
    let start ← here
    skipN 3
    push k start (← here)

/-- An opening flow bracket: one flow level deeper. -/
def fetchFlowStart (kind : TokenKind) : Scan Unit := do
  saveKey
  modify fun s => { s with keys := {} :: s.keys, flow := s.flow + 1, keyAllowed := true }
  let start ← here
  skip
  push kind start (← here)

/-- A closing flow bracket: one flow level shallower. -/
def fetchFlowEnd (kind : TokenKind) : Scan Unit := do
  dropKey
  modify fun s =>
    let s := if s.flow > 0 then { s with flow := s.flow - 1, keys := s.keys.tail } else s
    { s with keyAllowed := false }
  let start ← here
  skip
  push kind start (← here)

/-- A `,` between flow entries. -/
def fetchFlowEntry : Scan Unit := do
  dropKey
  modify fun s => { s with keyAllowed := true }
  let start ← here
  skip
  push .flowEntry start (← here)

/-- A block sequence entry `- `, which opens a block sequence when it is deeper. -/
def fetchBlockEntry : Scan Unit := do
  let s ← get
  if s.flow == 0 then
    if !s.keyAllowed then fail "block sequence entries are not allowed in this context"
    rollIndent s.mark.column none .blockSequenceStart s.mark
  dropKey
  modify fun s => { s with keyAllowed := true }
  let start ← here
  skip
  push .blockEntry start (← here)

/-- A complex key indicator `? `, which opens a block mapping when it is deeper. -/
def fetchKey : Scan Unit := do
  let s ← get
  if s.flow == 0 then
    if !s.keyAllowed then fail "mapping keys are not allowed in this context"
    rollIndent s.mark.column none .blockMappingStart s.mark
  dropKey
  modify fun s => { s with keyAllowed := s.flow == 0 }
  let start ← here
  skip
  push .key start (← here)

/-- A value indicator `: `. After a pending simple key the key token goes in where the key
started, with the start of a block mapping before it when it is deeper. -/
def fetchValue : Scan Unit := do
  let s ← get
  match s.keys with
  | k :: rest =>
    if k.possible then
      let t : Token := { kind := .key, start := k.mark, stop := k.mark }
      set { s with queue := s.queue.insertIdx (k.number - s.taken) t }
      rollIndent k.mark.column (some k.number) .blockMappingStart k.mark
      modify fun s => { s with keys := { k with possible := false } :: rest, keyAllowed := false }
    else
      if s.flow == 0 then
        if !s.keyAllowed then fail "mapping values are not allowed in this context"
        rollIndent s.mark.column none .blockMappingStart s.mark
      modify fun s => { s with keyAllowed := s.flow == 0 }
  | [] => pure ()
  let start ← here
  skip
  push .value start (← here)

/-- Whether a character starts a plain scalar here: anything but an indicator or a blank, or
`-`, `?` and `:` before a character that is not a blank. -/
def startsPlain (c d : Char) (inFlow : Bool) : Bool :=
  let indicator := isBlankOrEnd c || "-?:,[]#&*!|>'\"%@`".contains c || c == '\x7b' || c == '\x7d'
  !indicator || (c == '-' && !isBlank d) || (!inFlow && (c == '?' || c == ':') && !isBlankOrEnd d)

/-- Scan the next token. -/
def fetchNext : Scan Unit := do
  if !(← get).started then fetchStreamStart
  else
    toNextToken (← rounds)
    dropStaleKeys
    unrollIndent (← get).mark.column
    let s ← get
    let c ← cur
    let d ← ahead 1
    let atLineStart := s.mark.column == 0
    let inFlow := s.flow > 0
    if c == endChar then fetchStreamEnd
    else if atLineStart && c == '%' then fetchAtLineStart none
    else if atLineStart && c == '-' && (← atDocumentIndicator) then
      fetchAtLineStart (some .documentStart)
    else if atLineStart && c == '.' && (← atDocumentIndicator) then
      fetchAtLineStart (some .documentEnd)
    else if c == '[' then fetchFlowStart .flowSequenceStart
    else if c == '\x7b' then fetchFlowStart .flowMappingStart
    else if c == ']' then fetchFlowEnd .flowSequenceEnd
    else if c == '\x7d' then fetchFlowEnd .flowMappingEnd
    else if c == ',' then fetchFlowEntry
    else if c == '-' && isBlankOrEnd d then fetchBlockEntry
    else if c == '?' && (inFlow || isBlankOrEnd d) then fetchKey
    else if c == ':' && (inFlow || isBlankOrEnd d) then fetchValue
    else if c == '*' then
      saveKey
      modify fun s => { s with keyAllowed := false }
      scanAnchor true
    else if c == '&' then
      saveKey
      modify fun s => { s with keyAllowed := false }
      scanAnchor false
    else if c == '!' then
      saveKey
      modify fun s => { s with keyAllowed := false }
      scanTag
    else if (c == '|' || c == '>') && !inFlow then
      dropKey
      modify fun s => { s with keyAllowed := true }
      scanBlockScalar (c == '|')
    else if c == '\'' || c == '"' then
      saveKey
      modify fun s => { s with keyAllowed := false }
      scanQuoted (c == '\'')
    else if startsPlain c d inFlow then
      saveKey
      modify fun s => { s with keyAllowed := false }
      scanPlain
    else
      failIn "while scanning for the next token" s.mark "found character that cannot start any token"

/-- Whether the head of the queue may not be handed out yet: the queue is empty, or a pending
key could still put a token in front of it. -/
def needMore : Scan Bool := do
  if (← get).queue.isEmpty then pure true
  else
    dropStaleKeys
    let s ← get
    pure (s.keys.any fun k => k.possible && k.number == s.taken)

/-- Scan until the head of the queue may be handed out. -/
def fetchMore : Nat → Scan Unit
  | 0 => pure ()
  | n + 1 => do
    if ← needMore then
      fetchNext
      fetchMore n

/-- The next token, scanned as far as needed. -/
def peekToken : Scan Token := do
  fetchMore (4 * (← rounds) + 8)
  let s ← get
  pure (s.queue.headD { kind := .streamEnd, start := s.mark, stop := s.mark })

/-- Hand out the head of the queue. -/
def skipToken : Scan Unit :=
  modify fun s => { s with queue := s.queue.tail, taken := s.taken + 1 }

end Scan

/-- The byte offset of the first character a YAML text may not hold, if there is one. -/
def firstForbidden (t : String) : Option Nat :=
  let rec go (offset : Nat) : List Char → Option Nat
    | [] => none
    | c :: rest => if isPrintable c then go (offset + c.utf8Size) rest else some offset
  go 0 t.toList

end CloudApi.Yaml
