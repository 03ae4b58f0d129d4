import CloudApi.Json.Value
import CloudApi.Decimal.Shortest

/-!
# Printing JSON

`Json.render` writes a value compactly: no blanks, object keys in the sorted order the value keeps,
strings with the escapes JSON requires and nothing else escaped. Doubles are written with their
shortest decimal (`Decimal.Shortest.ofFloat`) in the layout `Json.floatLayout` fixes.
-/

namespace CloudApi

open Decimal

/-- Where a decimal is written positionally and how its exponent is spelled otherwise. -/
structure FloatLayout where
  /-- Positional when the decimal point falls after `pointAbove` ... -/
  pointAbove : Int
  /-- ... and no later than `pointAtMost` digits from the start. -/
  pointAtMost : Int
  /-- The mark before an exponent. -/
  expMark : String
  /-- Whether a non-negative exponent carries `+`. -/
  plusSign : Bool
  /-- The text of NaN and the infinities. -/
  nonFinite : String
  deriving Repr, Inhabited

/-- JSON doubles are positional from `1e-5` up to `1e16`, with `.0` after an integral value, and
otherwise one digit before the point and an exponent with its sign, as in `1e+20` and `1e-7`. -/
def Json.floatLayout : FloatLayout := ⟨-5, 16, "e", true, "null"⟩

/-- `n` zeros. -/
def zeros (n : Nat) : String := String.ofList (List.replicate n '0')

/-- The text of a decimal `d · 10^k` with `d > 0` in a layout. -/
def FloatLayout.decimal (l : FloatLayout) (s : Scientific) : String :=
  let ds := toString s.digits
  let n : Int := ds.length
  let point := n + s.exponent
  if 0 ≤ s.exponent ∧ point ≤ l.pointAtMost then
    ds ++ zeros s.exponent.toNat ++ ".0"
  else if 0 < point ∧ point ≤ l.pointAtMost then
    String.ofList (ds.toList.take point.toNat) ++ "." ++ String.ofList (ds.toList.drop point.toNat)
  else if l.pointAbove < point ∧ point ≤ 0 then
    "0." ++ zeros (-point).toNat ++ ds
  else
    let e := point - 1
    let mant := match ds.toList with
      | c :: rest@(_ :: _) => String.ofList (c :: '.' :: rest)
      | cs => String.ofList cs
    let sign := if e < 0 then "-" else if l.plusSign then "+" else ""
    mant ++ l.expMark ++ sign ++ toString e.natAbs

/-- The text of a double in a layout: `-0.0` keeps its sign. -/
def FloatLayout.render (l : FloatLayout) (f : Float) : String :=
  if f.isNaN || f.isInf then l.nonFinite
  else
    let negative := f.toBits >>> 63 == 1
    let sign := if negative then "-" else ""
    if f == 0 then sign ++ "0.0" else sign ++ l.decimal (Shortest.ofFloat f)

/-- The text of a double as JSON writes it. -/
def Json.floatText (f : Float) : String := Json.floatLayout.render f

/-- The four hex digits of a code unit below `0x100`, lower case. -/
def hex4 (n : Nat) : String :=
  let d := fun (k : Nat) => "0123456789abcdef".toList.getD (n / k % 16) '0'
  String.ofList [d 4096, d 256, d 16, d 1]

/-- A character as it stands inside a JSON string. -/
def Json.escapeChar (c : Char) : String :=
  match c with
  | '"' => "\\\""
  | '\\' => "\\\\"
  | '\n' => "\\n"
  | '\r' => "\\r"
  | '\t' => "\\t"
  | '\x08' => "\\b"
  | '\x0c' => "\\f"
  | c => if c.toNat < 0x20 then "\\u" ++ hex4 c.toNat else c.toString

/-- A string as a JSON string literal. -/
def Json.quote (s : String) : String :=
  s.foldl (fun acc c => acc ++ Json.escapeChar c) "\"" ++ "\""

/-- The text of a number. -/
def Number.render : Number → String
  | .nat n => toString n
  | .neg n => toString n
  | .float f => Json.floatText f

namespace Json

mutual
/-- The compact text of a value. -/
def render : Json → String
  | .null => "null"
  | .bool true => "true"
  | .bool false => "false"
  | .num n => n.render
  | .str s => quote s
  | .arr items => "[" ++ renderItems items ++ "]"
  | .obj fields => "\x7b" ++ renderFields fields ++ "\x7d"

/-- Values separated by commas. -/
def renderItems : List Json → String
  | [] => ""
  | [j] => render j
  | j :: js => render j ++ "," ++ renderItems js

/-- Fields separated by commas. -/
def renderFields : List (String × Json) → String
  | [] => ""
  | [(k, v)] => quote k ++ ":" ++ render v
  | (k, v) :: fs => quote k ++ ":" ++ render v ++ "," ++ renderFields fs
end

end Json

end CloudApi
