import CloudApi.Decode.Problem

/-!
# JSON errors

A JSON error is a syntax fault of the text or a problem of typed decoding, with the line and
column it is reported at. Line `0` stands for an error without a place: one raised on a value in
memory, or one that the reader has not placed yet (`Json.Error.place` fills it in once).
-/

namespace CloudApi.Json

/-- A fault in JSON text. -/
inductive Fault where
  | eofList
  | eofObject
  | eofString
  | eofValue
  | expectedColon
  | expectedListCommaOrEnd
  | expectedObjectCommaOrEnd
  | expectedIdent
  | expectedValue
  | invalidEscape
  | invalidNumber
  | numberOutOfRange
  | invalidCodePoint
  | controlCharacter
  | keyNotString
  | loneLeadingSurrogate
  | trailingComma
  | trailingCharacters
  | unexpectedEndOfEscape
  | recursionLimit
  deriving Repr, BEq, Inhabited

/-- The text of a fault. -/
def Fault.message : Fault → String
  | .eofList => "EOF while parsing a list"
  | .eofObject => "EOF while parsing an object"
  | .eofString => "EOF while parsing a string"
  | .eofValue => "EOF while parsing a value"
  | .expectedColon => "expected `:`"
  | .expectedListCommaOrEnd => "expected `,` or `]`"
  | .expectedObjectCommaOrEnd => "expected `,` or `\x7d`"
  | .expectedIdent => "expected ident"
  | .expectedValue => "expected value"
  | .invalidEscape => "invalid escape"
  | .invalidNumber => "invalid number"
  | .numberOutOfRange => "number out of range"
  | .invalidCodePoint => "invalid unicode code point"
  | .controlCharacter => "control character (\\u0000-\\u001F) found while parsing a string"
  | .keyNotString => "key must be a string"
  | .loneLeadingSurrogate => "lone leading surrogate in hex escape"
  | .trailingComma => "trailing comma"
  | .trailingCharacters => "trailing characters"
  | .unexpectedEndOfEscape => "unexpected end of hex escape"
  | .recursionLimit => "recursion limit exceeded"

/-- Why JSON decoding stopped. -/
inductive Cause where
  | fault (f : Fault)
  | problem (p : Problem)
  deriving Inhabited

/-- A JSON error at a line and column; line `0` means no place. -/
structure Error where
  cause : Cause
  line : Nat := 0
  column : Nat := 0
  deriving Inhabited

/-- The text of an error, with its place when it has one. -/
def Error.message (e : Error) : String :=
  let text := match e.cause with
    | .fault f => f.message
    | .problem p => p.message
  if e.line = 0 then text else text ++ " at line " ++ toString e.line ++ " column " ++ toString e.column

/-- An error without a place. -/
def Error.ofProblem (p : Problem) : Error := ⟨.problem p, 0, 0⟩

/-- Gives an error the place `at` unless it has one. -/
def Error.place (e : Error) (line column : Nat) : Error :=
  if e.line = 0 then { e with line := line, column := column } else e

end CloudApi.Json
