import CloudApi.Unicode.Runs
import CloudApi.Unicode.NormalizationData

/-!
# Canonical normalization

`nfc` puts a sequence of code points in Normalization Form C. Every code point is replaced by
its full canonical decomposition; each run of code points with a nonzero combining class is
sorted by class, code points of one class keeping their order; then each code point is joined
to the last starter before it when the pair has a primary composite and nothing between them
blocks it. A code point is blocked from the starter by one between them whose class is zero or
at least its own. Hangul syllables decompose into their jamo, and compose from them, by
arithmetic.
-/

namespace CloudApi.Unicode

/-- The canonical combining class of every code point. -/
def combiningClasses : Runs Nat := Runs.ofText readHex 0 combiningClassText

/-- The canonical combining class of a code point; starters have class zero. -/
def combiningClass (n : Nat) : Nat := combiningClasses.get n

/-- The full canonical decomposition of every code point that has one, Hangul apart. -/
def decompositions : Sparse (List Nat) :=
  Sparse.ofText (fun r => readHex (r.headD "")) (fun r => readCodes (r.getD 1 ""))
    decompositionText

/-- The key of a pair of code points in the table of composites. -/
def pairKey (a b : Nat) : Nat := a * 0x110000 + b

/-- The primary composites, by the pair they compose. -/
def compositions : Sparse Nat :=
  Sparse.ofText (fun r => pairKey (readHex (r.headD "")) (readHex (r.getD 1 "")))
    (fun r => readHex (r.getD 2 "")) compositionText

/-- The first Hangul syllable. -/
def syllableBase : Nat := 0xAC00
/-- The first leading consonant. -/
def leadBase : Nat := 0x1100
/-- The first vowel. -/
def vowelBase : Nat := 0x1161
/-- The code point before the first trailing consonant. -/
def trailBase : Nat := 0x11A7
/-- The number of leading consonants. -/
def leadCount : Nat := 19
/-- The number of vowels. -/
def vowelCount : Nat := 21
/-- The number of trailing consonants, none counting as one. -/
def trailCount : Nat := 28
/-- The number of syllables with one leading consonant. -/
def blockCount : Nat := vowelCount * trailCount
/-- The number of Hangul syllables. -/
def syllableCount : Nat := leadCount * blockCount

/-- Whether a code point is a Hangul syllable. -/
def isSyllable (n : Nat) : Bool := syllableBase ≤ n && n < syllableBase + syllableCount

/-- The full canonical decomposition of a code point. -/
def decompose (n : Nat) : List Nat :=
  if isSyllable n then
    let s := n - syllableBase
    let l := leadBase + s / blockCount
    let v := vowelBase + s % blockCount / trailCount
    let t := trailBase + s % trailCount
    if t == trailBase then [l, v] else [l, v, t]
  else (decompositions.get? n).getD [n]

/-- A run of code points with nonzero class, sorted by class, equal classes in order. -/
def sortMarks (run : List Nat) : List Nat :=
  run.mergeSort fun a b => combiningClass a ≤ combiningClass b

/-- Sort every run of code points with a nonzero class; `run` holds the current run. -/
def reorderFrom : List Nat → List Nat → List Nat
  | [], run => sortMarks run
  | c :: rest, run =>
    if combiningClass c == 0 then sortMarks run ++ c :: reorderFrom rest []
    else reorderFrom rest (run ++ [c])

/-- The canonical order of a decomposed sequence. -/
def reorder (cs : List Nat) : List Nat := reorderFrom cs []

/-- The primary composite of a pair, if it has one. -/
def composePair (a b : Nat) : Option Nat :=
  if leadBase ≤ a && a < leadBase + leadCount && vowelBase ≤ b && b < vowelBase + vowelCount then
    some (syllableBase + ((a - leadBase) * vowelCount + (b - vowelBase)) * trailCount)
  else if isSyllable a && (a - syllableBase) % trailCount == 0 && trailBase < b &&
      b < trailBase + trailCount then
    some (a + (b - trailBase))
  else compositions.get? (pairKey a b)

/-- Compose the rest of a canonically ordered sequence onto `out`: `starter` is the index in
`out` of the last starter, and `lastClass` the class of the last code point kept after it, zero
when there is none. -/
def composeFrom : List Nat → Array Nat → Option Nat → Nat → Array Nat
  | [], out, _, _ => out
  | c :: rest, out, starter, lastClass =>
    let cc := combiningClass c
    let joined := match starter with
      | some i =>
        if lastClass < cc || lastClass == 0 then (composePair (out.getD i 0) c).map (i, ·)
        else none
      | none => none
    match joined with
    | some (i, comp) => composeFrom rest (out.modify i fun _ => comp) starter lastClass
    | none =>
      if cc == 0 then composeFrom rest (out.push c) (some out.size) 0
      else composeFrom rest (out.push c) starter cc

/-- The canonical composition of a canonically ordered sequence. -/
def compose (cs : List Nat) : List Nat := (composeFrom cs #[] none 0).toList

/-- The Normalization Form C of a sequence of code points. -/
def nfc (cs : List Nat) : List Nat := compose (reorder (cs.flatMap decompose))

/-- Whether a sequence of code points is in Normalization Form C. -/
def isNfc (cs : List Nat) : Bool := nfc cs == cs

end CloudApi.Unicode
