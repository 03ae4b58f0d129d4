import CloudApi.Text.Utf8

/-!
# Percent-encoding

Escaping the octets of a text as `%XX` with two capital hexadecimal digits. Which octets are
escaped is an `EncodeSet`: every control, DEL and every octet of a non-ASCII character always,
and some printable ASCII characters besides. Each part of a web address has its own set, and so
does a single path segment that a caller hands over.

Form encoding, used in query strings, writes a space as `+` and keeps only letters, digits and
`*-._`. Reading it back splits at `&` and the first `=`, turns `+` into a space, undoes the
escapes, and decodes the octets as UTF-8, putting U+FFFD for what does not decode.
-/

namespace CloudApi.Web

/-- The printable ASCII characters that an encoding escapes besides controls, DEL and
non-ASCII octets. -/
structure EncodeSet where
  extra : List Char

namespace EncodeSet

/-- Whether an octet is escaped. -/
def escapes (s : EncodeSet) (b : UInt8) : Bool :=
  b < 0x20 || 0x7F ≤ b || s.extra.contains (Char.ofNat b.toNat)

/-- Controls, DEL and non-ASCII octets only. -/
def controls : EncodeSet := ⟨[]⟩

/-- The fragment of an address. -/
def fragment : EncodeSet := ⟨[' ', '"', '<', '>', '`']⟩

/-- The query of an address whose scheme is not special. -/
def query : EncodeSet := ⟨[' ', '"', '#', '<', '>']⟩

/-- The query of an address with a special scheme, which also escapes the apostrophe. -/
def specialQuery : EncodeSet := ⟨[' ', '"', '#', '<', '>', '\'']⟩

/-- A segment of an address's path. -/
def path : EncodeSet := ⟨[' ', '"', '<', '>', '`', '#', '?', '\x7b', '\x7d']⟩

/-- The user name and password of an address. -/
def userinfo : EncodeSet :=
  ⟨path.extra ++ ['/', ':', ';', '=', '@', '[', '\\', ']', '^', '|']⟩

/-- One path segment handed over by a caller: it may hold neither a slash nor a percent sign
as itself. -/
def segment : EncodeSet := ⟨[' ', '"', '#', '%', '/', '<', '>', '?', '`', '\x7b', '\x7d']⟩

end EncodeSet

/-- The capital hexadecimal digit of a value below 16. -/
def hexDigit (n : Nat) : Char :=
  if n < 10 then Char.ofNat (48 + n) else Char.ofNat (55 + n)

/-- An octet written as `%XX`. -/
def escapeOctet (b : UInt8) : String :=
  String.ofList ['%', hexDigit (b.toNat / 16), hexDigit (b.toNat % 16)]

/-- A character percent-encoded: itself, or each of its UTF-8 octets escaped. -/
def encodeChar (s : EncodeSet) (c : Char) : String :=
  let octets := (String.singleton c).toUTF8.toList
  if octets.any s.escapes then String.join (octets.map escapeOctet) else String.singleton c

/-- A text percent-encoded character by character. -/
def percentEncode (s : EncodeSet) (t : String) : String := String.join (t.toList.map (encodeChar s))

/-- The value of a hexadecimal digit octet. -/
def hexValue (b : UInt8) : Option Nat :=
  if 48 ≤ b && b ≤ 57 then some (b.toNat - 48)
  else if 65 ≤ b && b ≤ 70 then some (b.toNat - 55)
  else if 97 ≤ b && b ≤ 102 then some (b.toNat - 87)
  else none

/-- Octets with every `%` that two hexadecimal digits follow replaced by the octet they name.
Any other `%` stays. -/
def percentDecodeOctets : List UInt8 → List UInt8
  | [] => []
  | 37 :: h :: l :: rest =>
    match hexValue h, hexValue l with
    | some a, some b => UInt8.ofNat (16 * a + b) :: percentDecodeOctets rest
    | _, _ => 37 :: percentDecodeOctets (h :: l :: rest)
  | b :: rest => b :: percentDecodeOctets rest

/-- A text with its escapes undone, decoded as UTF-8 with U+FFFD for what does not decode. -/
def percentDecode (t : String) : String :=
  Utf8.decodeLossy (ByteArray.mk (percentDecodeOctets t.toUTF8.toList).toArray)

/-! ### Form encoding -/

/-- One octet form-encoded. -/
def formOctet (b : UInt8) : String :=
  let c := Char.ofNat b.toNat
  if c.isAlphanum || c == '*' || c == '-' || c == '.' || c == '_' then String.singleton c
  else if b == 32 then "+"
  else escapeOctet b

/-- A text form-encoded. -/
def formEncode (t : String) : String := String.join (t.toUTF8.toList.map formOctet)

/-- One form-encoded name or value read back. -/
def formDecode (octets : List UInt8) : String :=
  let plain := octets.map fun b => if b == 43 then 32 else b
  Utf8.decodeLossy (ByteArray.mk (percentDecodeOctets plain).toArray)

/-- The octets before the first `sep`, and those after it, if it occurs. -/
def splitOnce (sep : UInt8) (octets : List UInt8) : List UInt8 × Option (List UInt8) :=
  match octets.findIdx? (· == sep) with
  | some i => (octets.take i, some (octets.drop (i + 1)))
  | none => (octets, none)

/-- The pieces of a list of octets between separators. -/
def splitAll (sep : UInt8) (octets : List UInt8) : List (List UInt8) :=
  (octets.foldr (fun b (acc : List (List UInt8)) =>
    if b == sep then [] :: acc
    else match acc with
      | piece :: rest => (b :: piece) :: rest
      | [] => [[b]]) [[]])

/-- The name and value pairs of a form-encoded text, empty pieces skipped. -/
def formPairs (t : String) : List (String × String) :=
  (splitAll 38 t.toUTF8.toList).filterMap fun piece =>
    if piece.isEmpty then none
    else
      let (name, value) := splitOnce 61 piece
      some (formDecode name, formDecode (value.getD []))

/-- Name and value pairs form-encoded and joined by `&`. -/
def formText (pairs : List (String × String)) : String :=
  "&".intercalate (pairs.map fun (k, v) => formEncode k ++ "=" ++ formEncode v)

end CloudApi.Web
