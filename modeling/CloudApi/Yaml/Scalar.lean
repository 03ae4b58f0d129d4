import CloudApi.Yaml.Document
import CloudApi.Decimal.Binary
import CloudApi.Json.Print
import CloudApi.Text.Quoted

/-!
# What a scalar means

A plain scalar without a tag is read by its text. Empty, `null`, `Null`, `NULL` and `~` mean
nothing. `true`, `True`, `TRUE` and their `false` forms are booleans. A number may be
decimal, `0x` hexadecimal, `0o` octal or `0b` binary, with a sign. A float may be a decimal
with a fraction or an exponent, or one of the `.inf` and `.nan` spellings. Everything else is
a string. Digits with a leading zero, such as `007`, are a string too.

Integers are tried as unsigned and then signed 64-bit values, then 128-bit ones. A 128-bit
value is named with its width when it is reported.

The standard tags `!!bool`, `!!int`, `!!float` and `!!null` insist on their type. A text
that is not of that type is an invalid value. Another tag starting with `!` leaves a plain
scalar to be read by its text, and any other tag makes it a string. A quoted or block scalar
is always a string.

`complaint` says what a scalar is when something else was expected. It uses the words of
the messages this library reports.
-/

namespace CloudApi.Yaml

/-- The standard tag of booleans. -/
def boolTag : String := "tag:yaml.org,2002:bool"

/-- The standard tag of integers. -/
def intTag : String := "tag:yaml.org,2002:int"

/-- The standard tag of floats. -/
def floatTag : String := "tag:yaml.org,2002:float"

/-- The standard tag of nothing. -/
def nullTag : String := "tag:yaml.org,2002:null"

/-- Whether a text means nothing. -/
def isNullWord (s : String) : Bool := s == "null" || s == "Null" || s == "NULL" || s == "~"

/-- The boolean a text means, if it means one. -/
def boolWord? (s : String) : Option Bool :=
  if s == "true" || s == "True" || s == "TRUE" then some true
  else if s == "false" || s == "False" || s == "FALSE" then some false
  else none

/-- Whether a text is digits with a leading zero, after an optional sign: such a text is a
string. -/
def digitsButNotNumber (s : String) : Bool :=
  let cs := match s.toList with
    | '-' :: rest | '+' :: rest => rest
    | cs => cs
  match cs with
  | '0' :: rest@(_ :: _) => rest.all Char.isDigit
  | _ => false

/-- The value of a digit in a radix. -/
def digitIn (radix : Nat) (c : Char) : Option Nat :=
  let v := if c.isDigit then some (c.toNat - 48)
    else if 'a' ≤ c && c ≤ 'z' then some (c.toNat - 87)
    else if 'A' ≤ c && c ≤ 'Z' then some (c.toNat - 55)
    else none
  v.filter (· < radix)

/-- The value of a run of digits in a radix; nothing when it is empty or holds another
character. -/
def digitsIn (radix : Nat) (cs : List Char) : Option Nat :=
  if cs.isEmpty then none
  else cs.foldlM (fun acc c => (digitIn radix c).map (radix * acc + ·)) 0

/-- A whole number in a radix with an optional `+` sign, or `-` when `signed`, that fits in
`bits` bits. -/
def readRadix (signed : Bool) (bits radix : Nat) (s : String) : Option Int :=
  let (negative, cs) := match s.toList with
    | '+' :: rest => (false, rest)
    | '-' :: rest => if signed then (true, rest) else (false, '-' :: rest)
    | cs => (false, cs)
  (digitsIn radix cs).bind fun n =>
    if signed then
      let v : Int := if negative then -(n : Int) else n
      if -Int.pow 2 (bits - 1) ≤ v && v < Int.pow 2 (bits - 1) then some v else none
    else if n < Nat.pow 2 bits then some n else none

/-- A text as an unsigned number of `bits` bits: `+` may lead, then `0x`, `0o` or `0b` or
decimal digits. -/
def unsignedOf (bits : Nat) (s : String) : Option Int :=
  let u := if s.startsWith "+" then (s.drop 1).toString else s
  let radixed (pre : String) (radix : Nat) : Option (Option Int) :=
    if u.startsWith pre then
      let rest := (u.drop 2).toString
      if rest.startsWith "+" || rest.startsWith "-" then some none
      else (readRadix false bits radix rest).map some
    else none
  match radixed "0x" 16 <|> radixed "0o" 8 <|> radixed "0b" 2 with
  | some r => r
  | none =>
    if u.startsWith "+" || u.startsWith "-" || digitsButNotNumber s then none
    else readRadix false bits 10 u

/-- A text as a signed number of `bits` bits: `-0x`, `-0o` or `-0b` and digits, or decimal. -/
def signedOf (bits : Nat) (s : String) : Option Int :=
  let radixed (pre : String) (radix : Nat) : Option Int :=
    if s.startsWith pre then readRadix true bits radix ("-" ++ (s.drop 3).toString) else none
  match radixed "-0x" 16 <|> radixed "-0o" 8 <|> radixed "-0b" 2 with
  | some v => some v
  | none => if digitsButNotNumber s then none else readRadix true bits 10 s

/-- An integer read from a text, and whether it needed 128 bits, signed or not. -/
inductive IntValue where
  | word (v : Int)
  | wideUnsigned (v : Nat)
  | wideSigned (v : Int)

/-- The integer a text means: 64 bits unsigned, then signed, then 128 bits. -/
def intOf (s : String) : Option IntValue :=
  match unsignedOf 64 s with
  | some v => some (.word v)
  | none => match signedOf 64 s with
    | some v => some (.word v)
    | none => match unsignedOf 128 s with
      | some v => some (.wideUnsigned v.toNat)
      | none => (signedOf 128 s).map .wideSigned

/-- How an integer is reported. -/
def IntValue.text : IntValue → String
  | .word v => "integer `" ++ toString v ++ "`"
  | .wideUnsigned v => "integer `" ++ toString v ++ "` as u128"
  | .wideSigned v => "integer `" ++ toString v ++ "` as i128"

/-! ### Floats -/

/-- Whether a text names infinity or NaN, in any case. -/
def isNonFiniteWord (s : String) : Bool :=
  let l := s.toList.map Char.toLower
  l == "inf".toList || l == "infinity".toList || l == "nan".toList

/-- The double nearest to `m · 10^k`. Far too large is infinity, far too small is zero. -/
def decimalDouble (m : Nat) (k : Int) : Float :=
  let digits := (Nat.toDigits 10 m).length
  if m = 0 then 0
  else if k + digits > 400 then Float.ofBits 0x7FF0000000000000
  else if k + digits < -400 then 0
  else if 0 ≤ k then Decimal.Binary.nearestRatio (m * Nat.pow 10 k.toNat) 1
  else Decimal.Binary.nearestRatio m (Nat.pow 10 (-k).toNat)

/-- A decimal number without a sign: digits, a point and digits, either run but not both may be
empty, then an optional exponent. -/
def unsignedDecimal (s : String) : Option Float :=
  let cs := s.toList
  let whole := cs.takeWhile Char.isDigit
  let cs := cs.drop whole.length
  let (frac, cs) := match cs with
    | '.' :: rest => (rest.takeWhile Char.isDigit, rest.drop (rest.takeWhile Char.isDigit).length)
    | _ => ([], cs)
  let exponent : Option Int := match cs with
    | [] => some 0
    | e :: rest =>
      if e == 'e' || e == 'E' then
        match rest with
        | '-' :: ds => (digitsIn 10 ds).map fun n => -(n : Int)
        | '+' :: ds => (digitsIn 10 ds).map fun n => (n : Int)
        | ds => (digitsIn 10 ds).map fun n => (n : Int)
      else none
  if whole.isEmpty && frac.isEmpty then none
  else exponent.map fun e =>
    let ds := whole ++ frac
    decimalDouble ((digitsIn 10 ds).getD 0) (e - frac.length)

/-- A number in the form floats are written in, with an optional sign. The words `inf`,
`infinity` and `nan` give no finite number and so are `none` here too. -/
def finiteDecimal (s : String) : Option Float :=
  let (negative, body) := match s.toList with
    | '-' :: rest => (true, String.ofList rest)
    | '+' :: rest => (false, String.ofList rest)
    | _ => (false, s)
  if isNonFiniteWord body then none
  else (unsignedDecimal body).map fun f => if negative then -f else f

/-- The float a text means: the `.inf`, `-.inf` and `.nan` spellings, or a finite decimal. -/
def floatOf (s : String) : Option Float :=
  let signed := s.startsWith "+"
  let u := if signed then (s.drop 1).toString else s
  if signed && (u.startsWith "+" || u.startsWith "-") then none
  else if u == ".inf" || u == ".Inf" || u == ".INF" then some (Float.ofBits 0x7FF0000000000000)
  else if s == "-.inf" || s == "-.Inf" || s == "-.INF" then some (Float.ofBits 0xFFF0000000000000)
  else if s == ".nan" || s == ".NaN" || s == ".NAN" then some (Float.ofBits 0x7FF8000000000000)
  else (finiteDecimal u).filter fun f => !f.isInf && !f.isNaN

/-- How a float is reported: positionally with a point, as in `1.0` and `0.001`, or `inf`,
`-inf` and `NaN`. -/
def floatText (f : Float) : String :=
  if f.isNaN then "NaN"
  else if f.isInf then (if f > 0 then "inf" else "-inf")
  else FloatLayout.render ⟨-400, 400, "e", false, "NaN"⟩ f

/-! ### Reading scalars -/

/-- What a scalar is. -/
inductive Meaning where
  | nothing
  | bool (b : Bool)
  | int (v : IntValue)
  | float (f : Float)
  | string

/-- What an untagged plain scalar means. -/
def meaningOf (s : String) : Meaning :=
  if s.isEmpty || isNullWord s then .nothing
  else match boolWord? s with
    | some b => .bool b
    | none => match intOf s with
      | some v => .int v
      | none =>
        match (if digitsButNotNumber s then none else floatOf s) with
        | some f => .float f
        | none => .string

/-- How a meaning is reported, for a scalar of text `s`. -/
def Meaning.describe (m : Meaning) (s : String) : String :=
  match m with
  | .nothing => "unit value"
  | .bool b => "boolean `" ++ toString b ++ "`"
  | .int v => v.text
  | .float f => "floating point `" ++ floatText f ++ "`"
  | .string => "string " ++ Quoted.text s

/-- What is said about a scalar read where `expected` was wanted. -/
def complaint (s : Scalar) (expected : String) : String :=
  let invalidType (what : String) := "invalid type: " ++ what ++ ", expected " ++ expected
  let invalidValue (what : String) :=
    "invalid value: string " ++ Quoted.text s.value ++ ", expected " ++ what
  let byText := invalidType ((meaningOf s.value).describe s.value)
  let asString := invalidType ("string " ++ Quoted.text s.value)
  match s.tag with
  | some t =>
    if t == boolTag then
      match boolWord? s.value with
      | some b => invalidType ("boolean `" ++ toString b ++ "`")
      | none => invalidValue "a boolean"
    else if t == intTag then
      match intOf s.value with
      | some v => invalidType v.text
      | none => invalidValue "an integer"
    else if t == floatTag then
      match floatOf s.value with
      | some f => invalidType ("floating point `" ++ floatText f ++ "`")
      | none => invalidValue "a float"
    else if t == nullTag then
      if isNullWord s.value then invalidType "unit value" else invalidValue "null"
    else if t.startsWith "!" && s.style == .plain then byText
    else asString
  | none => if s.style == .plain then byText else asString

end CloudApi.Yaml
