/-!
# YAML tokens

The pieces a YAML text is cut into before it is parsed: stream and document markers, the
indentation-driven starts and ends of block collections, flow brackets, entry, key and value
indicators, anchors, aliases, tags and scalars. Each token carries the marks where it starts and
stops.

A `Mark` counts the bytes read, and lines and columns (in characters) from zero. A `YamlError` is a problem at a
mark, optionally while doing something that started at another mark. Its text names the
problem, then where it happened, then the context. Positions are written as `line L column C`
counted from one. A mark at the very start is not written, because it says nothing. The
context's mark is left out when it is the problem's mark. Errors found before any line is
read, such as a forbidden character, give their place as a byte offset instead.
-/

namespace CloudApi.Yaml

/-- A place in a YAML text: the bytes read before it, its line and its column, from zero. -/
structure Mark where
  index : Nat := 0
  line : Nat := 0
  column : Nat := 0
  deriving Inhabited, BEq, Repr

namespace Mark

/-- Whether a mark is at the first column of the first line. -/
def atStart (m : Mark) : Bool := m.line == 0 && m.column == 0

/-- A mark as `line L column C`, counted from one. -/
def text (m : Mark) : String :=
  "line " ++ toString (m.line + 1) ++ " column " ++ toString (m.column + 1)

end Mark

/-- What went wrong reading a YAML text: the problem, where, and what was being read. -/
structure YamlError where
  problem : String
  mark : Mark := {}
  offset : Nat := 0
  context : Option (String × Mark) := none
  deriving Inhabited

/-- The text of a reading error: the problem, its place, then the context and its place. -/
def YamlError.message (e : YamlError) : String :=
  let place :=
    if !e.mark.atStart then " at " ++ e.mark.text
    else if e.offset != 0 then " at position " ++ toString e.offset
    else ""
  let context := match e.context with
    | none => ""
    | some (what, m) =>
      let same := m.line == e.mark.line && m.column == e.mark.column
      ", " ++ what ++ (if !m.atStart && !same then " at " ++ m.text else "")
  e.problem ++ place ++ context

/-- How a scalar was written. -/
inductive ScalarStyle where
  | plain
  | singleQuoted
  | doubleQuoted
  | literal
  | folded
  deriving Inhabited, BEq, Repr

/-- The kinds of token. -/
inductive TokenKind where
  | streamStart
  | streamEnd
  | versionDirective (major minor : Nat)
  | tagDirective (handle target : String)
  | documentStart
  | documentEnd
  | blockSequenceStart
  | blockMappingStart
  | blockEnd
  | flowSequenceStart
  | flowSequenceEnd
  | flowMappingStart
  | flowMappingEnd
  | blockEntry
  | flowEntry
  | key
  | value
  | alias (name : String)
  | anchor (name : String)
  | tag (handle suffix : String)
  | scalar (text : String) (style : ScalarStyle)
  deriving Inhabited, BEq, Repr

/-- A token and where it starts and stops. -/
structure Token where
  kind : TokenKind
  start : Mark
  stop : Mark
  deriving Inhabited, Repr

/-! ### Characters -/

/-- The character that stands for the end of the text. A real NUL is refused before scanning. -/
def endChar : Char := '\x00'

/-- Letters, digits, `_` and `-`: the characters of anchor names and tag handles. -/
def isWordChar (c : Char) : Bool :=
  ('0' ≤ c && c ≤ '9') || ('a' ≤ c && c ≤ 'z') || ('A' ≤ c && c ≤ 'Z') || c == '_' || c == '-'

/-- A space or a tab. -/
def isBlank (c : Char) : Bool := c == ' ' || c == '\t'

/-- A line break: CR, LF, NEL, or the line and paragraph separators. -/
def isBreak (c : Char) : Bool :=
  c == '\r' || c == '\n' || c == '\x85' || c == '\u2028' || c == '\u2029'

/-- A line break or the end of the text. -/
def isBreakOrEnd (c : Char) : Bool := isBreak c || c == endChar

/-- A blank, a line break or the end of the text. -/
def isBlankOrEnd (c : Char) : Bool := isBlank c || isBreakOrEnd c

/-- Whether a character may appear in a YAML text at all: tab, line feed, carriage return,
printable ASCII, NEL, and the rest of Unicode but the surrogates, U+FFFE and U+FFFF. -/
def isPrintable (c : Char) : Bool :=
  let v := c.val
  v == 0x09 || v == 0x0A || v == 0x0D || (0x20 ≤ v && v ≤ 0x7E) || v == 0x85 ||
    (0xA0 ≤ v && v ≤ 0xD7FF) || (0xE000 ≤ v && v ≤ 0xFFFD) || 0x10000 ≤ v

/-- The value of a hexadecimal digit. -/
def hexValue (c : Char) : Option Nat :=
  if '0' ≤ c && c ≤ '9' then some (c.toNat - 48)
  else if 'a' ≤ c && c ≤ 'f' then some (c.toNat - 87)
  else if 'A' ≤ c && c ≤ 'F' then some (c.toNat - 55)
  else none

end CloudApi.Yaml
