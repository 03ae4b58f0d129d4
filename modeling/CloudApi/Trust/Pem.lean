import CloudApi.Text.Base64
import CloudApi.Text.Quoted
import CloudApi.Text.Utf8

/-!
# PEM sections

A PEM text is read line by line, a line ending after a line feed or a carriage return. A line
that starts `-----BEGIN ` opens a section. It must end in exactly five dashes, counted with the
blanks and breaks among them passed over, and what stands between is the section's label. A line that starts
`-----END <label>-----` closes the open section. Lines inside a section, trimmed of ASCII
blanks, are joined into its base64 body. Lines outside any section are passed over.

A section of a label this library knows is decoded and handed out. A section of another label
is dropped whole, its body unread. A text that ends inside a section is an error naming its
label.

The body is base64 of the standard alphabet. Blanks inside it are skipped and a byte outside
the alphabet is an error. Padding may only end the body, and the body must be whole groups of
four.
-/

namespace CloudApi.Pem

/-- The kinds of section this library knows. -/
inductive Kind where
  | certificate
  | publicKey
  | rsaPrivateKey
  | privateKey
  | ecPrivateKey
  | revocationList
  | signingRequest
  | echConfigs
  deriving Repr, BEq, DecidableEq, Inhabited

/-- The kind a label names, if it names one. -/
def Kind.ofLabel? (label : String) : Option Kind :=
  match label with
  | "CERTIFICATE" => some .certificate
  | "PUBLIC KEY" => some .publicKey
  | "RSA PRIVATE KEY" => some .rsaPrivateKey
  | "PRIVATE KEY" => some .privateKey
  | "EC PRIVATE KEY" => some .ecPrivateKey
  | "X509 CRL" => some .revocationList
  | "CERTIFICATE REQUEST" => some .signingRequest
  | "ECH CONFIGS" => some .echConfigs
  | _ => none

/-- Why a PEM text could not be read. Labels and lines are kept as bytes. -/
inductive Fault where
  | missingEnd (label : List UInt8)
  | illegalStart (line : List UInt8)
  | invalidCharacter (byte : UInt8)
  | prematurePadding
  | invalidTrailingPadding
  deriving Repr, BEq, Inhabited

/-- Bytes as text, each invalid sequence replaced. -/
def lossy (bytes : List UInt8) : String := Utf8.decodeLossy ⟨bytes.toArray⟩

/-- The text of a fault. -/
def Fault.message : Fault → String
  | .missingEnd label => "section end " ++ Quoted.text (lossy label) ++ " missing"
  | .illegalStart line => "illegal section start: " ++ Quoted.text (lossy line)
  | .invalidCharacter b => "InvalidCharacter(" ++ toString b.toNat ++ ")"
  | .prematurePadding => "PrematurePadding"
  | .invalidTrailingPadding => "InvalidTrailingPadding"

/-- A decoded section. -/
structure Section where
  kind : Kind
  der : ByteArray

/-- Whether a byte ends a line. -/
def isBreak (b : UInt8) : Bool := b == 10 || b == 13

/-- The lines of a text, each with the break that ends it. -/
def lines : List UInt8 → List UInt8 → List (List UInt8)
  | [], [] => []
  | [], acc => [acc.reverse]
  | b :: rest, acc =>
    if isBreak b then (b :: acc).reverse :: lines rest [] else lines rest (b :: acc)

/-- Whether a byte is an ASCII blank, as trimming counts them. -/
def isAsciiBlank (b : UInt8) : Bool := b == 32 || b == 9 || b == 10 || b == 12 || b == 13

/-- A line without its leading and trailing ASCII blanks. -/
def trim (line : List UInt8) : List UInt8 :=
  ((line.dropWhile isAsciiBlank).reverse.dropWhile isAsciiBlank).reverse

/-- The bytes of an ASCII text. -/
def ascii (s : String) : List UInt8 := s.toList.map fun c => c.toNat.toUInt8

/-- The trailing dashes of a line read from its end, with blanks and breaks among them passed
over: how many there are, and where the first of them stands. The bytes come last first, and
`i` is where the next of them stands in the line. -/
def trailingDashes : List UInt8 → Nat → Nat × Nat → Nat × Nat
  | [], _, acc => acc
  | b :: rest, i, (n, pos) =>
    if b == 45 then trailingDashes rest (i - 1) (n + 1, i)
    else if b == 10 || b == 13 || b == 32 then trailingDashes rest (i - 1) (n, pos)
    else (n, pos)

/-- The label of a section start line: what follows `-----BEGIN ` up to the trailing dashes,
which must be exactly five. -/
def beginLabel (line : List UInt8) : Option (List UInt8) :=
  let (dashes, pos) := trailingDashes line.reverse (line.length - 1) (0, line.length)
  if dashes == 5 then some ((line.take pos).drop 11) else none

/-- Whether a byte is skipped inside a body. -/
def isBodyBlank (b : UInt8) : Bool := b == 32 || b == 9 || b == 10 || b == 13

/-- The six-bit values of a body, in order, and how many padding bytes end it. -/
def symbols : List UInt8 → List Nat → Nat → Except Fault (List Nat × Nat)
  | [], acc, pads => .ok (acc.reverse, pads)
  | b :: rest, acc, pads =>
    if isBodyBlank b then symbols rest acc pads
    else if b == Base64.pad then symbols rest acc (pads + 1)
    else match Base64.symbol b with
      | some v => if pads > 0 then .error .prematurePadding else symbols rest (v :: acc) pads
      | none => .error (.invalidCharacter b)

/-- The bytes that six-bit values carry, the bits past the last whole byte dropped. -/
def bytesOf (values : List Nat) : List UInt8 :=
  let total := values.foldl (fun acc v => acc * 64 + v) 0
  let bits := values.length * 6
  let count := bits / 8
  let whole := total / Nat.pow 2 (bits - count * 8)
  (List.range count).map fun i => (whole / Nat.pow 256 (count - 1 - i) % 256).toUInt8

/-- The bytes of a base64 body. -/
def decodeBody (body : List UInt8) : Except Fault ByteArray := do
  let (values, pads) ← symbols body [] 0
  if (values.length + pads) % 4 != 0 || pads > 2 then throw .invalidTrailingPadding
  pure ⟨(bytesOf values).toArray⟩

/-- The sections of a text from its lines on, the open section's label and body so far given. -/
def sectionsFrom : List (List UInt8) → Option (List UInt8 × List UInt8) → Except Fault (List Section)
  | [], none => .ok []
  | [], some (label, _) => .error (.missingEnd label)
  | line :: rest, current =>
    if line.take 11 == ascii "-----BEGIN " then
      match beginLabel line with
      | none => .error (.illegalStart line)
      | some label => sectionsFrom rest (some (label, []))
    else match current with
      | none => sectionsFrom rest none
      | some (label, body) =>
        let endLine := ascii "-----END " ++ label ++ ascii "-----"
        if line.take endLine.length == endLine then
          match Kind.ofLabel? (lossy label) with
          | none => sectionsFrom rest none
          | some kind => do
            let der ← decodeBody body
            let more ← sectionsFrom rest none
            pure (⟨kind, der⟩ :: more)
        else sectionsFrom rest (some (label, body ++ trim line))

/-- The known sections of a PEM text, in order, or the first fault met. -/
def sections (text : ByteArray) : Except Fault (List Section) :=
  sectionsFrom (lines text.toList []) none

/-- The certificates of a PEM text, in order. -/
def certificates (text : ByteArray) : Except Fault (List ByteArray) :=
  (sections text).map fun ss => (ss.filter (·.kind == .certificate)).map (·.der)

end CloudApi.Pem
