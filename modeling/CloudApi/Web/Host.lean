import CloudApi.Web.Idna
import CloudApi.Web.Percent

/-!
# Hosts of web addresses

The host of an address is a domain name, an IPv4 address, an IPv6 address in brackets, or, for
schemes that are not special, an opaque text.

A special host is percent-decoded and then given its ASCII form as an internationalized domain
name. A name whose last label is a number, of any size, is an IPv4 address, read part by part in
decimal, octal (a leading `0`) or hexadecimal (a leading `0x`), each part below 2^32.

An IPv6 address is eight 16-bit pieces with at most one `::` standing for a run of zeros, the
last two pieces possibly written as a dotted IPv4 address. It is written back in lowercase
hexadecimal with the first longest run of two or more zero pieces as `::`.
-/

namespace CloudApi.Web

/-- Why an address does not parse. -/
inductive UrlError where
  | emptyHost
  | badDomain
  | badPort
  | badIpv4
  | badIpv6
  | badHostCharacter
  | relativeWithoutBase
  | relativeToOpaque
  deriving Repr, BEq, DecidableEq, Inhabited

/-- How a parse failure reads. -/
def UrlError.message : UrlError → String
  | .emptyHost => "empty host"
  | .badDomain => "invalid international domain name"
  | .badPort => "invalid port number"
  | .badIpv4 => "invalid IPv4 address"
  | .badIpv6 => "invalid IPv6 address"
  | .badHostCharacter => "invalid domain character"
  | .relativeWithoutBase => "relative URL without a base"
  | .relativeToOpaque => "relative URL with a cannot-be-a-base base"

/-- The host of an address. -/
inductive Host where
  | domain (name : String)
  | ipv4 (address : Nat)
  | ipv6 (pieces : List Nat)
  | verbatim (text : String)
  deriving Repr, BEq, Inhabited

/-- The value of a hexadecimal digit character. -/
def hexCharValue (c : Char) : Option Nat :=
  if c.isDigit then some (c.toNat - 48)
  else if 'a' ≤ c && c ≤ 'f' then some (c.toNat - 87)
  else if 'A' ≤ c && c ≤ 'F' then some (c.toNat - 55)
  else none

/-- Whether every character is a digit below `radix`. -/
def allDigits (radix : Nat) (cs : List Char) : Bool :=
  cs.all fun c => match hexCharValue c with
    | some d => d < radix
    | none => false

/-- The number that digits below `radix` write. -/
def readRadix (radix : Nat) (cs : List Char) : Nat :=
  cs.foldl (fun n c => n * radix + (hexCharValue c).getD 0) 0

/-! ### IPv4 -/

/-- The number one part of an IPv4 address writes: hexadecimal behind `0x`, octal behind a
leading `0`, decimal otherwise. A bare prefix is zero. -/
def ipv4Part (part : List Char) : Option Nat :=
  if part.isEmpty then none else
  let (radix, digits) := match part with
    | '0' :: 'x' :: rest => (16, rest)
    | '0' :: 'X' :: rest => (16, rest)
    | '0' :: d :: rest => (8, d :: rest)
    | _ => (10, part)
  if digits.isEmpty then some 0
  else if allDigits radix digits then some (readRadix radix digits)
  else none

/-- The labels of a name between dots. -/
def labels (name : String) : List (List Char) := (name.splitOn ".").map String.toList

/-- Whether the last label of a name, or the one before a final empty label, is a number. -/
def endsInNumber (name : String) : Bool :=
  let parts := (labels name).reverse
  let last := match parts with
    | [] :: before :: _ => some before
    | [] :: [] => none
    | last :: _ => some last
    | [] => none
  match last with
  | none => false
  | some l => (!l.isEmpty && l.all Char.isDigit) || (ipv4Part l).isSome

/-- An IPv4 address from its text: up to four parts, the last filling the remaining octets. -/
def parseIpv4 (name : String) : Except UrlError Nat := do
  let parts := labels name
  let parts := if parts.getLast? == some [] then parts.dropLast else parts
  if parts.length > 4 then throw .badIpv4
  let numbers ← parts.mapM fun p => match ipv4Part p with
    | some n => if n < Nat.pow 2 32 then pure n else throw UrlError.badIpv4
    | none => throw UrlError.badIpv4
  let front := numbers.dropLast
  let last := numbers.getLast?.getD 0
  if Nat.pow 256 (4 - front.length) ≤ last then throw .badIpv4
  if front.any (255 < ·) then throw .badIpv4
  return (front.zipIdx.foldl (fun acc (n, i) => acc + n * Nat.pow 256 (3 - i)) 0) + last

/-- An IPv4 address in dotted decimal. -/
def ipv4Text (a : Nat) : String :=
  ".".intercalate ([3, 2, 1, 0].map fun i => toString (a / Nat.pow 256 i % 256))

/-! ### IPv6 -/

/-- Up to four hexadecimal digits: the value, how many, and the rest. -/
def readHexPiece : List Char → Nat → Nat → Nat × Nat × List Char
  | c :: rest, v, n =>
    match hexCharValue c with
    | some d => if n < 4 then readHexPiece rest (v * 16 + d) (n + 1) else (v, n, c :: rest)
    | none => (v, n, c :: rest)
  | [], v, n => (v, n, [])

/-- One decimal octet of a dotted tail: no leading zero, at most 255. -/
def readOctet : List Char → Option Nat → Option (Nat × List Char)
  | c :: rest, acc =>
    if c.isDigit then
      let d := c.toNat - 48
      match acc with
      | none => readOctet rest (some d)
      | some 0 => none
      | some v => if v * 10 + d ≤ 255 then readOctet rest (some (v * 10 + d)) else none
    else acc.map (·, c :: rest)
  | [], acc => acc.map (·, [])

/-- The dotted tail of an IPv6 address: exactly four octets and nothing after. -/
def readDotted (cs : List Char) : Option (List Nat) := do
  let (a, cs) ← readOctet cs none
  let cs ← match cs with | '.' :: r => some r | _ => none
  let (b, cs) ← readOctet cs none
  let cs ← match cs with | '.' :: r => some r | _ => none
  let (c, cs) ← readOctet cs none
  let cs ← match cs with | '.' :: r => some r | _ => none
  let (d, cs) ← readOctet cs none
  if cs.isEmpty then some [a * 256 + b, c * 256 + d] else none

/-- Pieces read so far, and where the `::` stands, if one was seen. A `::` holds at least one
zero piece, which stands in `done` from the start. -/
structure Pieces where
  done : List Nat
  compress : Option Nat

/-- Read the pieces after the start, at most `fuel` of them. -/
def readPieces : Nat → List Char → Pieces → Option Pieces
  | 0, _, _ => none
  | _, [], p => some p
  | fuel + 1, cs, p =>
    if p.done.length == 8 then none else
    match cs with
    | ':' :: rest =>
      if p.compress.isSome then none
      else readPieces fuel rest { done := p.done ++ [0], compress := some (p.done.length + 1) }
    | _ =>
      let (v, n, rest) := readHexPiece cs 0 0
      match rest with
      | '.' :: _ =>
        if n == 0 || 6 < p.done.length then none
        else (readDotted cs).map fun tail => { p with done := p.done ++ tail }
      | ':' :: [] => none
      | ':' :: more => readPieces fuel more { p with done := p.done ++ [v] }
      | [] => some { p with done := p.done ++ [v] }
      | _ => none

/-- An IPv6 address from the text between its brackets. -/
def parseIpv6 (s : String) : Except UrlError (List Nat) :=
  let cs := s.toList
  let start : Option (List Char × Pieces) := match cs with
    | ':' :: ':' :: rest => some (rest, { done := [0], compress := some 1 })
    | ':' :: _ => none
    | _ => some (cs, { done := [], compress := none })
  match start.bind fun (rest, p) => readPieces (rest.length + 1) rest p with
  | none => .error .badIpv6
  | some p =>
    match p.compress with
    | some c => .ok (p.done.take c ++ List.replicate (8 - p.done.length) 0 ++ p.done.drop c)
    | none => if p.done.length == 8 then .ok p.done else .error .badIpv6

/-- The first longest run of zero pieces, as its start and length, if it has two or more. -/
def zeroRun (pieces : List Nat) : Option (Nat × Nat) :=
  let step := fun (acc : Option (Nat × Nat) × Option (Nat × Nat)) (pi : Nat × Nat) =>
    let (best, cur) := acc
    let (p, i) := pi
    let cur := if p == 0 then some (match cur with | some (s, l) => (s, l + 1) | none => (i, 1))
      else none
    let best := match cur, best with
      | some (s, l), some (_, bl) => if bl < l then some (s, l) else best
      | some c, none => some c
      | none, b => b
    (best, cur)
  match (pieces.zipIdx.foldl step (none, none)).1 with
  | some (s, l) => if 2 ≤ l then some (s, l) else none
  | none => none

/-- Lowercase hexadecimal without leading zeros. -/
def hexText (n : Nat) : String :=
  String.ofList (Nat.toDigits 16 n)

/-- An IPv6 address written back. -/
def ipv6Text (pieces : List Nat) : String :=
  match zeroRun pieces with
  | none => ":".intercalate (pieces.map hexText)
  | some (s, l) =>
    ":".intercalate ((pieces.take s).map hexText) ++ "::" ++
      ":".intercalate ((pieces.drop (s + l)).map hexText)

/-! ### Hosts -/

/-- Characters an opaque host may not hold. -/
def isForbiddenInHost (c : Char) : Bool :=
  "\x00\t\n\r #/:<>?@[\\]^|".toList.contains c

/-- The host of an address with a special scheme. -/
def Host.parseSpecial (input : String) : Except UrlError Host :=
  if input.startsWith "[" then
    if input.endsWith "]" then
      (parseIpv6 ((input.drop 1).dropEnd 1).toString).map Host.ipv6
    else .error .badIpv6
  else
    match domainToAscii (percentDecode input) with
    | none => .error .badDomain
    | some ascii =>
      if ascii.isEmpty then .error .emptyHost
      else if endsInNumber ascii then (parseIpv4 ascii).map Host.ipv4
      else .ok (.domain ascii)

/-- The host of an address whose scheme is not special. -/
def Host.parseVerbatim (input : String) : Except UrlError Host :=
  if input.startsWith "[" then
    if input.endsWith "]" then
      (parseIpv6 ((input.drop 1).dropEnd 1).toString).map Host.ipv6
    else .error .badIpv6
  else if input.any isForbiddenInHost then .error .badHostCharacter
  else .ok (.verbatim (percentEncode .controls input))

/-- How a host is written in an address. -/
def Host.text : Host → String
  | .domain n => n
  | .ipv4 a => ipv4Text a
  | .ipv6 ps => "[" ++ ipv6Text ps ++ "]"
  | .verbatim t => t

end CloudApi.Web
