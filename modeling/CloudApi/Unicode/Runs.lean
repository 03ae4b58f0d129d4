/-!
# Code point tables

Unicode properties are kept as text and read into arrays once. A property with a value for
every code point is a `Runs` table: ascending starts from 0, each run holding its value up to
the next start. A yes-or-no property is a `Flags` table: the starts of alternating runs, the
first of them a run that has the property. A mapping defined for some code points only is a
`Sparse` table of ascending keys. All three are searched by halving.

A table text is a list of records separated by spaces, the fields of a record separated by `:`,
with numbers in lowercase hexadecimal and sequences of code points joined by `.`.

`lastAtOrBelow` finds the last key at or below a number; `lastAtOrBelow_lt` says that its
answer lies in the interval searched.
-/

namespace CloudApi.Unicode

/-- The value of a hexadecimal digit, zero for any other character. -/
def hexDigitValue (c : Char) : Nat :=
  if '0' ≤ c && c ≤ '9' then c.toNat - 48
  else if 'a' ≤ c && c ≤ 'f' then c.toNat - 87
  else if 'A' ≤ c && c ≤ 'F' then c.toNat - 55
  else 0

/-- A number written in hexadecimal. -/
def readHex (s : String) : Nat := s.foldl (fun n c => n * 16 + hexDigitValue c) 0

/-- Code points written in hexadecimal and joined by `.`; the empty text holds none. -/
def readCodes (s : String) : List Nat :=
  if s.isEmpty then [] else (s.splitOn ".").map readHex

/-- The records of a table text, each split into its fields. -/
def records (text : String) : List (List String) :=
  ((text.splitOn " ").filter (!·.isEmpty)).map (·.splitOn ":")

/-- The index of the last key at or below `n` among the keys at `[lo, hi)`, taking the key at
`lo` to be at or below `n`. -/
def lastAtOrBelow (keys : Array Nat) (n lo hi : Nat) : Nat :=
  if h : lo + 1 < hi then
    if keys.getD ((lo + hi) / 2) 0 ≤ n then lastAtOrBelow keys n ((lo + hi) / 2) hi
    else lastAtOrBelow keys n lo ((lo + hi) / 2)
  else lo
termination_by hi - lo
decreasing_by all_goals omega

theorem lastAtOrBelow_lt (keys : Array Nat) (n lo hi : Nat) (h : lo < hi) :
    lo ≤ lastAtOrBelow keys n lo hi ∧ lastAtOrBelow keys n lo hi < hi := by
  induction lo, hi using lastAtOrBelow.induct keys n with
  | case1 lo hi hlt hmid ih =>
    rw [lastAtOrBelow, dif_pos hlt, if_pos hmid]
    have := ih (by omega)
    omega
  | case2 lo hi hlt hmid ih =>
    rw [lastAtOrBelow, dif_pos hlt, if_neg hmid]
    have := ih (by omega)
    omega
  | case3 lo hi hlt =>
    rw [lastAtOrBelow, dif_neg hlt]
    omega

/-- A property with a value for every code point, as runs. -/
structure Runs (α : Type) where
  starts : Array Nat
  values : Array α
  fallback : α

/-- The value of a code point. -/
def Runs.get {α : Type} (r : Runs α) (n : Nat) : α :=
  r.values.getD (lastAtOrBelow r.starts n 0 r.starts.size) r.fallback

/-- A runs table from records that start with the start of their run, reading each value from
the whole record with `read`. -/
def Runs.ofRecords {α : Type} (read : List String → α) (fallback : α) (text : String) : Runs α :=
  let rs := records text
  { starts := (rs.map fun r => readHex (r.headD "")).toArray,
    values := (rs.map read).toArray,
    fallback }

/-- A runs table from records `start:value`, reading each value with `read`. -/
def Runs.ofText {α : Type} (read : String → α) (fallback : α) (text : String) : Runs α :=
  Runs.ofRecords (fun r => read (r.getD 1 "")) fallback text

/-- A yes-or-no property of code points, as the starts of alternating runs. -/
structure Flags where
  starts : Array Nat

/-- Whether a code point has the property: the last start at or below it opens a run that has
it. -/
def Flags.contains (f : Flags) (n : Nat) : Bool :=
  if n < f.starts.getD 0 0 || f.starts.isEmpty then false
  else lastAtOrBelow f.starts n 0 f.starts.size % 2 == 0

/-- A flags table from a text of run starts. -/
def Flags.ofText (text : String) : Flags :=
  ⟨((records text).map fun r => readHex (r.headD "")).toArray⟩

/-- A mapping defined for some code points only, by ascending keys. -/
structure Sparse (α : Type) where
  keys : Array Nat
  values : Array α

/-- The value at a key, if the key is there. -/
def Sparse.get? {α : Type} (t : Sparse α) (n : Nat) : Option α :=
  let i := lastAtOrBelow t.keys n 0 t.keys.size
  if t.keys.getD i (n + 1) == n then t.values[i]? else none

/-- A sparse table from records, reading each record's key and value. -/
def Sparse.ofText {α : Type} (key : List String → Nat) (read : List String → α)
    (text : String) : Sparse α :=
  let rs := records text
  { keys := (rs.map key).toArray, values := (rs.map read).toArray }

end CloudApi.Unicode
