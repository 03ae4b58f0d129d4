import CloudApi.Unicode.Category
import CloudApi.Unicode.CaseData

/-!
# Letter case

The lowercase of a text, letter by letter, after the Unicode character database: a letter has
the lowercase the database gives it, one or more letters, and every other character stands for
itself. Capital sigma is the one letter whose lowercase depends on its neighbours: at the end of
a word it is the final form `ς`. A sigma ends a word when a cased letter comes before it and
none after it, case-ignorable characters between them not counting.
-/

namespace CloudApi.Text

/-- The lowercase of every code point that has one of its own. -/
def lowercases : Unicode.Sparse (List Nat) :=
  Unicode.Sparse.ofText (fun r => Unicode.readHex (r.headD ""))
    (fun r => Unicode.readCodes (r.getD 1 "")) Unicode.lowercaseText

/-- The lowercase of one character, leaving capital sigma as `σ`. The database lowers no ASCII
character but the capitals `A` to `Z`, so an ASCII character is lowered without it. -/
def lowerChar (c : Char) : List Char :=
  if c.toNat < 128 then [c.toLower]
  else match lowercases.get? c.toNat with
    | some cs => cs.map Char.ofNat
    | none => [c]

/-- Whether the first character that is not case-ignorable is cased. -/
def casedAfterIgnorable (cs : List Char) : Bool :=
  match cs.dropWhile Unicode.isCaseIgnorable with
  | c :: _ => Unicode.isCased c
  | [] => false

/-- The lowercase of a text, read with what stands before each letter (reversed) and after. -/
def lowerFrom : List Char → List Char → List Char
  | _, [] => []
  | before, c :: after =>
    let here := if c.toNat == 0x3A3 then
        if casedAfterIgnorable before && !casedAfterIgnorable after then ['ς'] else ['σ']
      else lowerChar c
    here ++ lowerFrom (c :: before) after

/-- The lowercase of a text. -/
def toLower (s : String) : String := String.ofList (lowerFrom [] s.toList)

end CloudApi.Text
