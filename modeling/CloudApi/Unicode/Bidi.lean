import CloudApi.Unicode.Runs
import CloudApi.Unicode.BidiData
import CloudApi.Unicode.JoiningData

/-!
# Bidirectional classes and joining types

The bidirectional class of a code point, which orders text written right to left among text
written left to right, and the joining type, which says how a letter of a cursive script joins
its neighbours.
-/

namespace CloudApi.Unicode

/-- The bidirectional class of a code point. -/
inductive BidiClass where
  | leftToRight | rightToLeft | arabicLetter
  | europeanNumber | europeanSeparator | europeanTerminator | arabicNumber | commonSeparator
  | nonspacingMark | boundaryNeutral
  | paragraphSeparator | segmentSeparator | whiteSpace | otherNeutral
  | embedding | override | popFormat | isolate | popIsolate
  deriving Repr, BEq, DecidableEq, Inhabited

namespace BidiClass

/-- The class a short name of the character database stands for. The explicit embeddings,
overrides and isolates are each one class here. -/
def ofName : String → BidiClass
  | "L" => .leftToRight
  | "R" => .rightToLeft
  | "AL" => .arabicLetter
  | "EN" => .europeanNumber
  | "ES" => .europeanSeparator
  | "ET" => .europeanTerminator
  | "AN" => .arabicNumber
  | "CS" => .commonSeparator
  | "NSM" => .nonspacingMark
  | "BN" => .boundaryNeutral
  | "B" => .paragraphSeparator
  | "S" => .segmentSeparator
  | "WS" => .whiteSpace
  | "ON" => .otherNeutral
  | "LRE" | "RLE" => .embedding
  | "LRO" | "RLO" => .override
  | "PDF" => .popFormat
  | "LRI" | "RLI" | "FSI" => .isolate
  | "PDI" => .popIsolate
  | _ => .leftToRight

end BidiClass

/-- The bidirectional class of every code point. -/
def bidiClasses : Runs BidiClass := Runs.ofText BidiClass.ofName .leftToRight bidiClassText

/-- The bidirectional class of a code point. -/
def bidiClass (n : Nat) : BidiClass := bidiClasses.get n

/-- How a code point joins its neighbours in a cursive script. -/
inductive JoiningType where
  | nonJoining | joinCausing | dualJoining | leftJoining | rightJoining | transparent
  deriving Repr, BEq, DecidableEq, Inhabited

/-- The joining type a one-letter name stands for. -/
def JoiningType.ofName : String → JoiningType
  | "C" => .joinCausing
  | "D" => .dualJoining
  | "L" => .leftJoining
  | "R" => .rightJoining
  | "T" => .transparent
  | _ => .nonJoining

/-- The joining type of every code point. -/
def joiningTypes : Runs JoiningType := Runs.ofText JoiningType.ofName .nonJoining joiningTypeText

/-- The joining type of a code point. -/
def joiningType (n : Nat) : JoiningType := joiningTypes.get n

end CloudApi.Unicode
