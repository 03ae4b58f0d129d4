import CloudApi.Unicode.Runs
import CloudApi.Unicode.CategoryData

/-!
# Character properties

The general category of a character and the properties derived from the Unicode character
database that the library needs: marks, characters that extend a grapheme, cased and
case-ignorable characters. A character prints on its own unless it is a control, a format
character, a surrogate, private use, unassigned, or a separator other than the space.
-/

namespace CloudApi.Unicode

/-- The general category of a code point. -/
inductive GeneralCategory where
  | lu | ll | lt | lm | lo
  | mn | mc | me
  | nd | nl | no
  | pc | pd | ps | pe | pi | pf | po
  | sm | sc | sk | so
  | zs | zl | zp
  | cc | cf | cs | co | cn
  deriving Repr, BEq, DecidableEq, Inhabited

namespace GeneralCategory

/-- Every category with its two-letter name. -/
def names : List (GeneralCategory × String) :=
  [(.lu, "Lu"), (.ll, "Ll"), (.lt, "Lt"), (.lm, "Lm"), (.lo, "Lo"), (.mn, "Mn"), (.mc, "Mc"),
   (.me, "Me"), (.nd, "Nd"), (.nl, "Nl"), (.no, "No"), (.pc, "Pc"), (.pd, "Pd"), (.ps, "Ps"),
   (.pe, "Pe"), (.pi, "Pi"), (.pf, "Pf"), (.po, "Po"), (.sm, "Sm"), (.sc, "Sc"), (.sk, "Sk"),
   (.so, "So"), (.zs, "Zs"), (.zl, "Zl"), (.zp, "Zp"), (.cc, "Cc"), (.cf, "Cf"), (.cs, "Cs"),
   (.co, "Co"), (.cn, "Cn")]

/-- The category a two-letter name stands for; an unknown name is unassigned. -/
def ofName (s : String) : GeneralCategory :=
  ((names.find? (·.2 == s)).map (·.1)).getD .cn

/-- Whether the category is one of the marks. -/
def isMark : GeneralCategory → Bool
  | .mn | .mc | .me => true
  | _ => false

/-- Whether characters of the category print on their own: not controls, format characters,
surrogates, private use, unassigned code points or separators. -/
def prints : GeneralCategory → Bool
  | .cc | .cf | .cs | .co | .cn | .zl | .zp | .zs => false
  | _ => true

end GeneralCategory

/-- The general category of every code point. -/
def categories : Runs GeneralCategory := Runs.ofText GeneralCategory.ofName .cn categoryText

/-- The general category of a code point. -/
def generalCategory (n : Nat) : GeneralCategory := categories.get n

/-- Whether a code point is a mark. -/
def isMark (n : Nat) : Bool := (generalCategory n).isMark

/-- Whether a character prints on its own; the space does. -/
def isPrintable (c : Char) : Bool := c == ' ' || (generalCategory c.toNat).prints

/-- The code points that extend a grapheme. -/
def graphemeExtend : Flags := Flags.ofText graphemeExtendText

/-- Whether a character extends the grapheme before it. -/
def isGraphemeExtend (c : Char) : Bool := graphemeExtend.contains c.toNat

/-- The cased code points. -/
def cased : Flags := Flags.ofText casedText

/-- Whether a character is cased. -/
def isCased (c : Char) : Bool := cased.contains c.toNat

/-- The case-ignorable code points. -/
def caseIgnorable : Flags := Flags.ofText caseIgnorableText

/-- Whether a character is case-ignorable. -/
def isCaseIgnorable (c : Char) : Bool := caseIgnorable.contains c.toNat

end CloudApi.Unicode
