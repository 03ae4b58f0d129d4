import CloudApi.Trust.Pem
import CloudApi.Client.Error

/-!
# Certificates as trust roots

A trusted root must be an X.509 certificate in DER: a sequence of the signed part, the
signature algorithm and a bit string with no unused bits, and nothing after it. The signed part
is at most 65534 bytes. It holds, in order:

* the version, `[0]` around the integer 2;
* a serial number;
* a signature algorithm, byte for byte the outer one;
* the issuer, the validity and the subject;
* the subject's key;
* optionally `[3]` around a non-empty sequence of extensions, and nothing after that.

An extension is an object identifier, an optional criticality flag and an octet string. Key
usage, alternative names, basic constraints, name constraints, revocation points and extended
key usage may each appear once. Apart from key usage their values must be one sequence. Any
other extension may appear only when it is not critical.

DER lengths must be minimal: a long form is used only above 127, with the fewest bytes, and at
most four of them. High tag numbers are not accepted.

`Trust.roots` reads a PEM bundle and checks each certificate in it. The bundle's faults come
before any certificate's.
-/

namespace CloudApi.Trust

/-- Why a certificate is not accepted as a root. -/
inductive Fault where
  | badEncoding
  | signatureAlgorithmMismatch
  | unsupportedCriticalExtension
  | extensionValueInvalid
  deriving Repr, BEq, DecidableEq, Inhabited

/-- The text of a fault. -/
def Fault.message : Fault → String
  | .badEncoding => "invalid peer certificate: BadEncoding"
  | .signatureAlgorithmMismatch => "invalid peer certificate: Other(OtherError(SignatureAlgorithmMismatch))"
  | .unsupportedCriticalExtension =>
    "invalid peer certificate: Other(OtherError(UnsupportedCriticalExtension))"
  | .extensionValueInvalid => "invalid peer certificate: Other(OtherError(ExtensionValueInvalid))"

/-- Reading DER: a value, or the fault met. -/
abbrev Der := Except Fault

/-- A big-endian number of `k` bytes and the bytes after it. -/
def number : Nat → List UInt8 → Der (Nat × List UInt8)
  | 0, rest => .ok (0, rest)
  | k + 1, b :: rest => do
    let (low, rest) ← number k rest
    pure (b.toNat * Nat.pow 256 k + low, rest)
  | _ + 1, [] => .error .badEncoding

/-- The length of an element and the bytes after it: one byte up to 127, else the fewest bytes
after a count of one to four. -/
def length : List UInt8 → Der (Nat × List UInt8)
  | [] => .error .badEncoding
  | n :: rest =>
    if n < 0x80 then .ok (n.toNat, rest)
    else
      let k := n.toNat - 0x80
      if k == 0 || k > 4 then .error .badEncoding
      else do
        let (len, rest) ← number k rest
        if len < (if k == 1 then 0x80 else Nat.pow 256 (k - 1)) then throw .badEncoding
        pure (len, rest)

/-- An element shorter than `limit`: its tag, its contents and the bytes after it. -/
def element (limit : Nat) : List UInt8 → Der (UInt8 × List UInt8 × List UInt8)
  | [] => .error .badEncoding
  | tag :: rest => do
    if tag &&& 0x1F == 0x1F then throw .badEncoding
    let (len, rest) ← length rest
    if len ≥ limit || rest.length < len then throw .badEncoding
    pure (tag, rest.take len, rest.drop len)

/-- The contents of an element of tag `tag`, and the bytes after it. -/
def expect (tag : UInt8) (input : List UInt8) (limit : Nat := Nat.pow 2 32 - 1) :
    Der (List UInt8 × List UInt8) := do
  let (t, contents, rest) ← element limit input
  if t != tag then throw .badEncoding
  pure (contents, rest)

/-- Insist that nothing is left. -/
def atEnd (rest : List UInt8) : Der Unit := if rest.isEmpty then .ok () else .error .badEncoding

/-- The contents of an element that must be all of `input`. -/
def whole (tag : UInt8) (input : List UInt8) : Der (List UInt8) := do
  let (contents, rest) ← expect tag input
  atEnd rest
  pure contents

/-- The tag of a boolean. -/
def boolean : UInt8 := 0x01

/-- The tag of an integer. -/
def integer : UInt8 := 0x02

/-- The tag of a bit string. -/
def bitString : UInt8 := 0x03

/-- The tag of an octet string. -/
def octetString : UInt8 := 0x04

/-- The tag of an object identifier. -/
def objectId : UInt8 := 0x06

/-- The tag of a sequence. -/
def sequence : UInt8 := 0x30

/-- The tag of the explicit field `[0]`. -/
def explicit0 : UInt8 := 0xA0

/-- The tag of the explicit field `[3]`. -/
def explicit3 : UInt8 := 0xA3

/-- An optional criticality flag: `FF` or `00` when present, false when absent. -/
def flag (input : List UInt8) : Der (Bool × List UInt8) :=
  match input with
  | t :: _ =>
    if t == boolean then do
      let (contents, rest) ← expect boolean input
      match contents with
      | [0xFF] => pure (true, rest)
      | [0x00] => pure (false, rest)
      | _ => throw .badEncoding
    else .ok (false, input)
  | [] => .ok (false, input)

/-- The last arc of the standard extensions this library remembers, under 2.5.29. -/
def remembered : List UInt8 := [15, 17, 19, 30, 31, 37]

/-- Take in one extension, given the remembered ones seen before it. -/
def extension (seen : List UInt8) (ext : List UInt8) : Der (List UInt8) := do
  let (id, rest) ← expect objectId ext
  let (critical, rest) ← flag rest
  let (value, rest) ← expect octetString rest
  let unsupported : Der (List UInt8) :=
    if critical then .error .unsupportedCriticalExtension else .ok seen
  let kept ← match id with
    | [0x55, 0x1D, arc] =>
      if remembered.contains arc then
        if seen.contains arc then throw .extensionValueInvalid
        else if arc == 15 then pure (arc :: seen)
        else do
          let _ ← whole sequence value
          pure (arc :: seen)
      else unsupported
    | _ => unsupported
  atEnd rest
  pure kept

/-- Take in a sequence's extensions, at least one, each a sequence. -/
def extensions : Nat → List UInt8 → List UInt8 → Der Unit
  | 0, _, _ => .error .badEncoding
  | fuel + 1, seen, input => do
    let (ext, rest) ← expect sequence input
    let seen ← extension seen ext
    if rest.isEmpty then pure () else extensions fuel seen rest

/-- Check the signed part of a certificate against the outer signature algorithm. -/
def signedPart (tbs algorithm : List UInt8) : Der Unit := do
  let (version, rest) ← expect explicit0 tbs
  if (← whole integer version) != [2] then throw .badEncoding
  let (_, rest) ← expect integer rest
  let (signature, rest) ← expect sequence rest
  if signature != algorithm then throw .signatureAlgorithmMismatch
  let (_, rest) ← expect sequence rest
  let (_, rest) ← expect sequence rest
  let (_, rest) ← expect sequence rest
  let (_, rest) ← expect sequence rest
  if rest.isEmpty then pure ()
  else do
    let (tagged, rest) ← expect explicit3 rest
    let (list, after) ← expect sequence tagged
    extensions list.length [] list
    atEnd after
    atEnd rest

/-- Check that a DER text is a certificate this library accepts as a root. -/
def check (der : ByteArray) : Der Unit := do
  let body ← whole sequence der.toList
  let (tbs, rest) ← expect sequence body 0xFFFF
  let (algorithm, rest) ← expect sequence rest
  let (bits, rest) ← expect bitString rest
  if bits.head? != some 0 then throw .badEncoding
  atEnd rest
  signedPart tbs algorithm

/-- The certificates of a PEM bundle, each checked as a root. A bundle without a certificate
is an error too. -/
def roots (pem : ByteArray) : Except ClientError (List ByteArray) := do
  let certs ← match Pem.certificates pem with
    | .ok cs => pure cs
    | .error f => throw (.config ("Failed to parse PEM certificates: " ++ f.message))
  if certs.isEmpty then throw (.config "No certificates found in PEM data")
  for c in certs do
    match check c with
    | .ok () => pure ()
    | .error f => throw (.config ("Failed to add CA cert: " ++ f.message))
  pure certs

end CloudApi.Trust
