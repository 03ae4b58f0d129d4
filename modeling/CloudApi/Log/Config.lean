import CloudApi.Http.Header
import CloudApi.Text.Quoted
import CloudApi.Text.Utf8

/-!
# Request logging settings

How the client logs its requests: the level of a success and of a failure, whether whole
exchanges are dumped, how much of a body is shown, and which headers are redacted. Redaction
compares header names without regard to ASCII case.

`Config.formatHeaders` writes headers as `name=value` pairs joined by `, `, grouped by name in
the order names first appeared, each value quoted as a byte string, `[REDACTED]` for a
sensitive name, or `Sensitive` for a value marked sensitive. `Config.formatBody` writes a body as text, bad UTF-8 replaced, cut to the
longest body shown and followed by its length in bytes when it is longer.
-/

namespace CloudApi.Log

/-- How loud a log line is. -/
inductive Level where
  | trace
  | debug
  | info
  | warn
  | error
  | off
  deriving Repr, BEq, DecidableEq, Inhabited

/-- The level a log line gets when none is chosen. -/
def Level.standard : Level := .info

/-- The name of a level. -/
def Level.text : Level → String
  | .trace => "TRACE"
  | .debug => "DEBUG"
  | .info => "INFO"
  | .warn => "WARN"
  | .error => "ERROR"
  | .off => "OFF"

/-- Every level, from the most verbose to none. -/
def Level.all : List Level := [.trace, .debug, .info, .warn, .error, .off]

/-- How requests are logged. -/
structure Config where
  successLevel : Level := .debug
  errorLevel : Level := .warn
  debugExchange : Bool := false
  maxBodyLen : Nat := 2048
  redact : Bool := true
  sensitive : List String := ["authorization", "x-api-key", "x-auth-token"]
  deriving Repr, Inhabited

namespace Config

/-- Settings for debugging: whole exchanges dumped, failures at error level. -/
def verbose : Config := { errorLevel := .error, debugExchange := true }

/-- Settings for production: successes not logged. -/
def quiet : Config := { successLevel := .off }

/-- ASCII lowercase of a text. -/
def lowerAscii (s : String) : String := String.ofList (s.toList.map Char.toLower)

/-- Whether a header's value is redacted. -/
def isSensitive (c : Config) (name : String) : Bool :=
  c.redact && c.sensitive.any fun h => lowerAscii h == lowerAscii name

/-- Headers as `name=value` pairs, grouped by name, the values of sensitive names redacted and
values marked sensitive hidden. -/
def formatHeaders (c : Config) (hs : Http.Headers) : String :=
  ", ".intercalate (hs.grouped.map fun h =>
    if c.isSensitive h.name then h.name ++ "=[REDACTED]"
    else if h.sensitive then h.name ++ "=Sensitive"
    else h.name ++ "=" ++ Quoted.octets h.value)

/-- A body as text, cut to `maxBodyLen` bytes on a character boundary with its length in bytes
after it when it is longer. -/
def formatBody (c : Config) (body : ByteArray) : String :=
  let text := Utf8.decodeLossy body
  if text.utf8ByteSize ≤ c.maxBodyLen then text
  else Utf8.truncateBytes text c.maxBodyLen ++ "... (" ++ toString body.size ++ " bytes)"

end Config

end CloudApi.Log
