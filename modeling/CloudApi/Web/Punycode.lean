/-!
# Punycode

The bootstring coding of a label of a domain name into letters, digits and hyphens. The ASCII
characters of the label come first, then a hyphen if there were any, then the other code points
in increasing order, each written as the distance from the one before as a variable-length
number in base 36 whose digit thresholds follow an adaptive bias.

Every loop has its measure: `adapt` divides the distance, `digitsOf` the number being written,
and the encoder walks the sorted code points. `decode` reads the coding back, failing on a
digit out of place, a number that does not fit in 32 bits, or a code point that is not a
character.
-/

namespace CloudApi.Web.Punycode

/-- The character of a base-36 digit: `a` to `z`, then `0` to `9`. -/
def digitChar (d : Nat) : Char :=
  if d < 26 then Char.ofNat (97 + d) else Char.ofNat (22 + d)

/-- The value of a base-36 digit, either case. -/
def digitValue (c : Char) : Option Nat :=
  let n := c.toNat
  if 97 ≤ n && n ≤ 122 then some (n - 97)
  else if 65 ≤ n && n ≤ 90 then some (n - 65)
  else if 48 ≤ n && n ≤ 57 then some (n - 22)
  else none

/-- The threshold of the digit at position `k` under a bias: between 1 and 26. -/
def threshold (k bias : Nat) : Nat :=
  if k ≤ bias then 1 else if bias + 26 ≤ k then 26 else k - bias

theorem threshold_pos (k bias : Nat) : 1 ≤ threshold k bias := by
  unfold threshold; split <;> (try split) <;> omega

theorem threshold_le (k bias : Nat) : threshold k bias ≤ 26 := by
  unfold threshold; split <;> (try split) <;> omega

/-- Divide a distance by 35 until it is at most 455, counting 36 for each division. -/
def shrink (delta k : Nat) : Nat × Nat :=
  if 455 < delta then shrink (delta / 35) (k + 36) else (delta, k)
termination_by delta
decreasing_by exact Nat.div_lt_self (by omega) (by omega)

/-- The next bias after writing a distance, with `count` code points now placed. -/
def adapt (delta count : Nat) (first : Bool) : Nat :=
  let d := if first then delta / 700 else delta / 2
  let (d, k) := shrink (d + d / count) 0
  k + 36 * d / (d + 38)

/-- The digits of a number, least significant first, from position `k`. -/
def digitsOf (bias k q : Nat) : List Char :=
  let t := threshold k bias
  if q < t then [digitChar q]
  else digitChar (t + (q - t) % (36 - t)) :: digitsOf bias (k + 36) ((q - t) / (36 - t))
termination_by q
decreasing_by
  have _ := threshold_pos k bias
  have _ := threshold_le k bias
  exact Nat.lt_of_le_of_lt (Nat.div_le_self _ _) (by omega)

/-- The encoder's state: the digits written, the distance so far, the bias and how many code
points are placed. -/
structure Coder where
  out : List Char
  delta : Nat
  bias : Nat
  placed : Nat

/-- Pass over one code point of the label while placing `m`. -/
def Coder.pass (basic m : Nat) (st : Coder) (c : Char) : Coder :=
  if c.toNat < m then { st with delta := st.delta + 1 }
  else if c.toNat == m then
    { out := st.out ++ digitsOf st.bias 36 st.delta, delta := 0,
      bias := adapt st.delta (st.placed + 1) (st.placed == basic), placed := st.placed + 1 }
  else st

/-- Place the code points `ms`, in increasing order, the last one placed being below `n`. -/
def Coder.placeAll (label : List Char) (basic : Nat) : List Nat → Nat → Coder → Coder
  | [], _, st => st
  | m :: rest, n, st =>
    let st := { st with delta := st.delta + (m - n) * (st.placed + 1) }
    let st := label.foldl (Coder.pass basic m) st
    Coder.placeAll label basic rest (m + 1) { st with delta := st.delta + 1 }

/-- The distinct code points of a list in increasing order. -/
def sortedDistinct (ns : List Nat) : List Nat :=
  (ns.mergeSort (· ≤ ·)).eraseDups

/-- The coding of a label, without the `xn--` mark. -/
def encode (label : List Char) : List Char :=
  let basic := label.filter (·.toNat < 0x80)
  let others := sortedDistinct ((label.filter (0x80 ≤ ·.toNat)).map Char.toNat)
  let st := Coder.placeAll label basic.length others 128
    { out := [], delta := 0, bias := 72, placed := basic.length }
  basic ++ (if basic.isEmpty then [] else ['-']) ++ st.out

/-- The bound the decoder's numbers stay below: they are 32-bit. -/
def limit : Nat := Nat.pow 2 32

/-- Read one variable-length number: the value added to `i`, and the rest of the input. The
sum and the weight of the next digit must stay below `limit`. -/
def readNumber (bias : Nat) : List Char → Nat → Nat → Nat → Option (Nat × List Char)
  | [], _, _, _ => none
  | c :: rest, k, w, i =>
    match digitValue c with
    | none => none
    | some d =>
      if limit ≤ i + d * w then none
      else if d < threshold k bias then some (i + d * w, rest)
      else if limit ≤ w * (36 - threshold k bias) then none
      else readNumber bias rest (k + 36) (w * (36 - threshold k bias)) (i + d * w)

theorem readNumber_shorter : ∀ (bias : Nat) (l : List Char) (k w i : Nat) (r : Nat × List Char),
    readNumber bias l k w i = some r → r.2.length < l.length
  | _, [], _, _, _, _, h => by simp [readNumber] at h
  | bias, c :: rest, k, w, i, r, h => by
    rw [readNumber] at h
    split at h
    · simp at h
    · split at h
      · simp at h
      · split at h
        · rw [← Option.some.inj h]; simp
        · split at h
          · simp at h
          · have := readNumber_shorter bias rest (k + 36) _ _ r h
            simp; omega

/-- Insert the coded code points one by one into the basic ones. -/
def insertAll (bias n i : Nat) (out : List Char) : List Char → Option (List Char)
  | [] => some out
  | c :: rest =>
    match h : readNumber bias (c :: rest) 36 1 i with
    | none => none
    | some (i', more) =>
      let count := out.length + 1
      let n' := n + i' / count
      let pos := i' % count
      if n'.isValidChar then
        insertAll (adapt (i' - i) count (i == 0)) n' (pos + 1) (out.insertIdx pos (Char.ofNat n'))
          more
      else none
termination_by l => l.length
decreasing_by simpa using readNumber_shorter bias (c :: rest) 36 1 i (i', more) h

/-- Read a coding back into the label, without the `xn--` mark. -/
def decode (coded : List Char) : Option (List Char) :=
  let (basic, ext) := match coded.reverse.span (· != '-') with
    | (tail, []) => ([], tail.reverse)
    | (tail, _ :: head) => (head.reverse, tail.reverse)
  if basic.any (0x80 ≤ ·.toNat) then none else insertAll 72 128 0 basic ext

end CloudApi.Web.Punycode
