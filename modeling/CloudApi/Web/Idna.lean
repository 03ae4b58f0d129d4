import CloudApi.Unicode.Category
import CloudApi.Unicode.Normalization
import CloudApi.Unicode.Bidi
import CloudApi.Web.IdnaData
import CloudApi.Web.Punycode

/-!
# Internationalized domain names

The ASCII form of a domain name, after Unicode Technical Standard 46 with the choices web
addresses make: deviations are kept, hyphens are not checked, joiners and bidirectional text are,
and the length of the name is not.

The name is mapped code point by code point after the IDNA mapping table (a disallowed code point
is an error), put in Normalization Form C and split into labels at `.`. A label written in
Punycode behind `xn--` is decoded; it must be ASCII, decode, and give a label that is not empty
nor ASCII. Every label must then be in Normalization Form C, not begin with `xn--` or a mark,
hold no `.` and only valid code points and deviations, and place its joiners where the
contextual rules allow them. When any code point of the name is written right to left, every
label that is not empty must follow the bidirectional rule for labels. Last, a label outside
ASCII is written in Punycode, and the name may not hold a control, a space or a delimiter of an
address.
-/

namespace CloudApi.Web

/-- What a code point does in a domain name. -/
inductive NameStatus where
  | valid
  | deviation
  | ignored
  | mapped (replacement : List Nat)
  | disallowed
  deriving Repr, BEq, Inhabited

namespace NameStatus

/-- The status a record of the mapping table gives. -/
def ofRecord (r : List String) : NameStatus :=
  match r.getD 1 "" with
  | "V" => .valid
  | "D" => .deviation
  | "I" => .ignored
  | "M" => .mapped (Unicode.readCodes (r.getD 2 ""))
  | _ => .disallowed

/-- Whether a code point of the status may stand in a label: valid code points and deviations,
which this processing keeps. -/
def keeps : NameStatus → Bool
  | .valid | .deviation => true
  | _ => false

/-- What a code point of the status becomes in a mapped name, or nothing when it is disallowed. -/
def image (c : Nat) : NameStatus → Option (List Nat)
  | .valid | .deviation => some [c]
  | .ignored => some []
  | .mapped replacement => some replacement
  | .disallowed => none

end NameStatus

/-- The status of every code point. -/
def nameStatuses : Unicode.Runs NameStatus :=
  Unicode.Runs.ofRecords NameStatus.ofRecord .disallowed Unicode.idnaMappingText

/-- The status of a code point. -/
def nameStatus (n : Nat) : NameStatus := nameStatuses.get n

/-- A name mapped code point by code point, or nothing when it holds a disallowed code point. -/
def mapName (cs : List Nat) : Option (List Nat) :=
  (cs.mapM fun c => (nameStatus c).image c).map List.flatten

/-- The labels of a name between its dots. -/
def splitLabels : List Nat → List (List Nat)
  | [] => [[]]
  | c :: rest =>
    let ls := splitLabels rest
    if c == 0x2E then [] :: ls
    else match ls with
      | l :: more => (c :: l) :: more
      | [] => [[c]]

/-- The mark of a label written in Punycode. -/
def acePrefix : List Nat := [0x78, 0x6E, 0x2D, 0x2D]

/-- Whether a label begins with the Punycode mark `xn--`. -/
def hasAcePrefix (l : List Nat) : Bool := l.take 4 == acePrefix

/-- The Unicode form of a label: a label behind `xn--` is decoded, and must be ASCII, decode,
and give a label that is neither empty nor ASCII. -/
def decodeLabel (l : List Nat) : Option (List Nat) :=
  if hasAcePrefix l then
    if l.any (0x80 ≤ ·) then none
    else match Punycode.decode ((l.drop 4).map Char.ofNat) with
      | none => none
      | some u =>
        let u := u.map Char.toNat
        if u.all (· < 0x80) then none else some u
  else some l

/-- Whether a joiner may stand between `before` (reversed) and `after`. The zero width joiner
needs a virama before it; the zero width non-joiner needs a virama before it, or a letter joining
to the right before it and one joining to the left after it, transparent letters apart. -/
def joinerAllowed (before : List Nat) (c : Nat) (after : List Nat) : Bool :=
  let virama := match before with
    | b :: _ => Unicode.combiningClass b == 9
    | [] => false
  let joinsOn := fun (side : List Nat) (kinds : List Unicode.JoiningType) =>
    match side.dropWhile (Unicode.joiningType · == .transparent) with
    | d :: _ => kinds.contains (Unicode.joiningType d)
    | [] => false
  if c == 0x200D then virama
  else if c == 0x200C then
    virama || (joinsOn before [.leftJoining, .dualJoining] &&
      joinsOn after [.rightJoining, .dualJoining])
  else true

/-- Whether every joiner of a label stands where it may; `before` is what came before, reversed. -/
def joinersAllowed : List Nat → List Nat → Bool
  | _, [] => true
  | before, c :: after => joinerAllowed before c after && joinersAllowed (c :: before) after

/-- Whether a label meets the criteria every label must meet. -/
def validLabel (l : List Nat) : Bool :=
  Unicode.isNfc l && !hasAcePrefix l && !l.contains 0x2E &&
    !(l.head?.map Unicode.isMark).getD false && l.all (nameStatus · |>.keeps) &&
    joinersAllowed [] l

/-- Whether a code point is written right to left or is an Arabic digit. -/
def isRightToLeft (n : Nat) : Bool :=
  match Unicode.bidiClass n with
  | .rightToLeft | .arabicLetter | .arabicNumber => true
  | _ => false

/-- The classes a label that reads right to left may hold. -/
def rightToLeftClasses : List Unicode.BidiClass :=
  [.rightToLeft, .arabicLetter, .arabicNumber, .europeanNumber, .europeanSeparator,
   .commonSeparator, .europeanTerminator, .otherNeutral, .boundaryNeutral, .nonspacingMark]

/-- The classes a label that reads left to right may hold. -/
def leftToRightClasses : List Unicode.BidiClass :=
  [.leftToRight, .europeanNumber, .europeanSeparator, .commonSeparator, .europeanTerminator,
   .otherNeutral, .boundaryNeutral, .nonspacingMark]

/-- Whether a label follows the bidirectional rule: it begins with a letter, written left to right
or right to left; it holds only the classes of its direction; it ends, before any nonspacing
marks, in a letter of its direction or a digit; and, right to left, it does not hold both
European and Arabic digits. The empty label follows it. -/
def bidiLabel (l : List Nat) : Bool :=
  match l with
  | [] => true
  | c :: _ =>
    let classes := l.map Unicode.bidiClass
    let last := (classes.reverse.dropWhile (· == .nonspacingMark)).head?
    match Unicode.bidiClass c with
    | .rightToLeft | .arabicLetter =>
      classes.all rightToLeftClasses.contains &&
        [some .rightToLeft, some .arabicLetter, some .europeanNumber, some .arabicNumber].contains
          last &&
        !(classes.contains .europeanNumber && classes.contains .arabicNumber)
    | .leftToRight =>
      classes.all leftToRightClasses.contains &&
        (last == some .leftToRight || last == some .europeanNumber)
    | _ => false

/-- ASCII characters a domain name may not hold: controls, space, DEL and the delimiters of an
address. -/
def isDeniedAscii (c : Char) : Bool :=
  c.toNat ≤ 0x20 || c.toNat == 0x7F || "%#/:<>?@[\\]^|".toList.contains c

/-- How a label is written in the ASCII form: as it stands when it is ASCII, else in Punycode. -/
def asciiLabel (l : List Nat) : List Char :=
  if l.all (· < 0x80) then l.map Char.ofNat
  else "xn--".toList ++ Punycode.encode (l.map Char.ofNat)

/-- The ASCII form of a domain name, or nothing if it is not a valid name. -/
def domainToAscii (name : String) : Option String := do
  let mapped ← mapName (name.toList.map Char.toNat)
  let labels := splitLabels (Unicode.nfc mapped)
  let decoded ← labels.mapM decodeLabel
  if !decoded.all validLabel then none
  if decoded.any (·.any isRightToLeft) && !decoded.all bidiLabel then none
  let ascii := String.ofList (List.intercalate ['.'] (labels.map asciiLabel))
  if ascii.any isDeniedAscii then none
  return ascii

end CloudApi.Web
