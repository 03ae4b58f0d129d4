import CloudApi.Unicode.Category

/-!
# Quoted text in messages

Two quotings that error and log texts use. `Quoted.text` writes a string between double quotes
with backslash escapes for the quote, the backslash, NUL, tab, CR and LF, and `\u{…}` in
lowercase hexadecimal for a character that extends the grapheme before it or does not print on
its own: controls, format characters, surrogates, private use, unassigned code points, and
separators other than the space.
`Quoted.octets` writes a byte string between double quotes with `\"` for the quote and `\xNN`
for each byte that is not visible ASCII, tab excepted; a backslash stands for itself.
-/

namespace CloudApi.Quoted

/-- Whether a character is written as `\u{…}`: it extends the grapheme before it, or it does
not print on its own. -/
def hidden (c : Char) : Bool := Unicode.isGraphemeExtend c || !Unicode.isPrintable c

/-- Lower-case hex digits of a number, at least one. -/
def hexDigits (n : Nat) : List Char :=
  Nat.toDigits 16 n

/-- A character of a quoted string. -/
def escapeChar (c : Char) : List Char :=
  match c with
  | '"' => ['\\', '"']
  | '\\' => ['\\', '\\']
  | '\x00' => ['\\', '0']
  | '\t' => ['\\', 't']
  | '\r' => ['\\', 'r']
  | '\n' => ['\\', 'n']
  | c => if hidden c then ['\\', 'u', '\x7b'] ++ hexDigits c.toNat ++ ['\x7d'] else [c]

/-- A string between double quotes, escaped for a message. -/
def text (s : String) : String :=
  String.ofList ('"' :: s.toList.flatMap escapeChar ++ ['"'])

/-- Two lower-case hex digits of a byte. -/
def hexByte (b : UInt8) : List Char :=
  let d := fun (k : Nat) => "0123456789abcdef".toList.getD k '0'
  [d (b.toNat / 16), d (b.toNat % 16)]

/-- A byte of a quoted byte string. -/
def escapeOctet (b : UInt8) : List Char :=
  if b = 0x22 then ['\\', '"']
  else if b = 0x09 ∨ (0x20 ≤ b ∧ b < 0x7F) then [Char.ofNat b.toNat]
  else ['\\', 'x'] ++ hexByte b

/-- A byte string between double quotes, each byte outside visible ASCII as `\xNN`. -/
def octets (bytes : ByteArray) : String :=
  String.ofList ('"' :: bytes.toList.flatMap escapeOctet ++ ['"'])

end CloudApi.Quoted
