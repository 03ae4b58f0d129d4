/-!
# White space

`isBlank` is the Unicode `White_Space` property: tab, line feed, vertical tab, form feed,
carriage return, space, next line, no-break space, ogham space mark, the spaces from en quad to
hair space, line and paragraph separators, narrow no-break space, medium mathematical space and
ideographic space. `trim` drops such characters from both ends of a text.
-/

namespace CloudApi.Text

/-- The Unicode `White_Space` property. -/
def isBlank (c : Char) : Bool :=
  let n := c.toNat
  (0x09 ≤ n && n ≤ 0x0D) || n = 0x20 || n = 0x85 || n = 0xA0 || n = 0x1680 ||
  (0x2000 ≤ n && n ≤ 0x200A) || n = 0x2028 || n = 0x2029 || n = 0x202F || n = 0x205F ||
  n = 0x3000

/-- A text without white space at its start. -/
def trimStart (s : String) : String := String.ofList (s.toList.dropWhile isBlank)

/-- Characters without white space at their start. -/
def dropBlank (cs : List Char) : List Char := cs.dropWhile isBlank

/-- A text without white space at its end. -/
def trimEnd (s : String) : String := String.ofList (s.toList.reverse.dropWhile isBlank).reverse

/-- A text without white space at either end. -/
def trim (s : String) : String := trimEnd (trimStart s)

/-- Whether a text is empty once trimmed. -/
def isBlankText (s : String) : Bool := s.toList.all isBlank

/-- A text without the character `c` at either end. -/
def trimChar (s : String) (c : Char) : String :=
  String.ofList ((s.toList.dropWhile (· == c)).reverse.dropWhile (· == c)).reverse

/-- A text without the character `c` at its start. -/
def trimStartChar (s : String) (c : Char) : String := String.ofList (s.toList.dropWhile (· == c))

/-- A text without the character `c` at its end. -/
def trimEndChar (s : String) (c : Char) : String :=
  String.ofList (s.toList.reverse.dropWhile (· == c)).reverse

/-- Whether `sub` occurs in `xs` as a contiguous run. -/
def hasInfixList {α : Type} [BEq α] (sub : List α) : List α → Bool
  | [] => sub.isEmpty
  | x :: xs => sub.isPrefixOf (x :: xs) || hasInfixList sub xs

/-- Whether `sub` occurs in `s`. -/
def hasInfix (s sub : String) : Bool := hasInfixList sub.toList s.toList

end CloudApi.Text
