import CloudApi.Json.Number
import CloudApi.Json.Chars
import CloudApi.Json.Value

/-!
# Parsing JSON text

`Reader.value` reads one value of any kind: literals, numbers, strings, and arrays and objects,
which count against the nesting limit. An object keeps the last value of a repeated key.
`Json.parse` reads a whole text: one value with nothing but whitespace after it.

`Reader.skip` checks one value without building it. It keeps its open arrays and objects on a
stack of its own, so it is not bound by the nesting limit.

The reading functions take a step budget, from the length of the text: every step reads at least
one byte or closes a bracket, so the budget is never what ends a read of real text.
-/

namespace CloudApi.Json

namespace Reader

/-- The step budget for reading a text of `n` bytes. -/
def budget (n : Nat) : Nat := 4 * n + 8

/-- The position after a comma or the first entry: the next byte, refusing a comma where none
may stand. `close` ends the container; `comma` and `eof` are the faults to raise. -/
def entryStart (first : Bool) (close : UInt8) (comma eof : Fault) :
    Reader (Option UInt8 × Bool) := do
  match ← skipBlank with
  | some b =>
    if b = close then pure (some b, true)
    else if b = 0x2C ∧ !first then eat; pure (← skipBlank, false)
    else if first then pure (some b, false)
    else faultAhead comma
  | none => faultAhead eof

/-- Closes an array after its last element. -/
def endSeq : Reader Unit := do
  match ← skipBlank with
  | some 0x5D => eat
  | some 0x2C =>
    eat
    match ← skipBlank with
    | some 0x5D => faultAhead .trailingComma
    | _ => faultAhead .trailingCharacters
  | some _ => faultAhead .trailingCharacters
  | none => faultAhead .eofList

/-- Closes an object after its last entry. -/
def endMap : Reader Unit := do
  match ← skipBlank with
  | some 0x7D => eat
  | some 0x2C => faultAhead .trailingComma
  | some _ => faultAhead .trailingCharacters
  | none => faultAhead .eofObject

/-- The next element of an array, or `none` at its end. -/
def nextElement {α : Type} (first : Bool) (read : Reader α) : Reader (Option α) := do
  let (peek, done) ← entryStart first 0x5D .expectedListCommaOrEnd .eofList
  if done then return none
  match peek with
  | some 0x5D => faultAhead .trailingComma
  | some _ => return some (← read)
  | none => faultAhead .eofValue

/-- The next key of an object, or `none` at its end. -/
def nextKey (first : Bool) : Reader (Option String) := do
  let (peek, done) ← entryStart first 0x7D .expectedObjectCommaOrEnd .eofObject
  if done then return none
  match peek with
  | some 0x22 => eat; return some (← scan scanString)
  | some 0x7D => faultAhead .trailingComma
  | some _ => faultAhead .keyNotString
  | none => faultAhead .eofValue

/-- Reads a number literal whose sign, if any, was read. -/
def number (positive : Bool) : Reader Number := scan (scanNumber positive)

mutual
/-- One value of any kind, within a step budget. -/
def valueWith : Nat → Reader Json
  | 0 => faultAhead .eofValue
  | fuel + 1 => do
    match ← skipBlank with
    | none => faultAhead .eofValue
    | some b =>
      if b = 0x6E then eat; ident [0x75, 0x6C, 0x6C]; pure .null
      else if b = 0x74 then eat; ident [0x72, 0x75, 0x65]; pure (.bool true)
      else if b = 0x66 then eat; ident [0x61, 0x6C, 0x73, 0x65]; pure (.bool false)
      else if b = 0x2D then eat; pure (.num (← number false))
      else if isDigit b then pure (.num (← number true))
      else if b = 0x22 then eat; pure (.str (← scan scanString))
      else if b = 0x5B then
        enter
        let items ← itemsWith fuel true []
        leave
        endSeq
        pure (.arr items)
      else if b = 0x7B then
        enter
        let fields ← fieldsWith fuel true []
        leave
        endMap
        pure (.obj fields)
      else faultAhead .expectedValue

/-- The elements of an array after those in `acc`, within a step budget. -/
def itemsWith : Nat → Bool → List Json → Reader (List Json)
  | 0, _, _ => faultAhead .eofList
  | fuel + 1, first, acc => do
    match ← nextElement first (valueWith fuel) with
    | some v => itemsWith fuel false (acc ++ [v])
    | none => pure acc

/-- The entries of an object after those in `acc`, within a step budget. -/
def fieldsWith : Nat → Bool → List (String × Json) → Reader (List (String × Json))
  | 0, _, _ => faultAhead .eofObject
  | fuel + 1, first, acc => do
    match ← nextKey first with
    | some k =>
      colon
      let v ← valueWith fuel
      fieldsWith fuel false (Json.Fields.insert k v acc)
    | none => pure acc
end

/-- One value of any kind. -/
def value : Reader Json := do
  valueWith (budget (← get).bytes.size)

/-! ### Skipping a value -/

/-- The fault for a missing separator inside an open array (`[`) or object. -/
def commaFault (frame : UInt8) : Fault :=
  if frame = 0x5B then .expectedListCommaOrEnd else .expectedObjectCommaOrEnd

/-- The fault for the end of text inside an open array (`[`) or object. -/
def eofFault (frame : UInt8) : Fault :=
  if frame = 0x5B then .eofList else .eofObject

/-- The bracket that closes a frame. -/
def closer (frame : UInt8) : UInt8 := if frame = 0x5B then 0x5D else 0x7D

/-- The key and colon that open an entry of an object. -/
def skipKey : Reader Unit := do
  match ← skipBlank with
  | some 0x22 => eat
  | some _ => faultAhead .keyNotString
  | none => faultAhead .eofObject
  scan skipString
  match ← skipBlank with
  | some 0x3A => eat
  | some _ => faultAhead .expectedColon
  | none => faultAhead .eofObject

mutual
/-- Skips a value inside the open frames `stack`, innermost first. -/
def skipWith : Nat → List UInt8 → Reader Unit
  | 0, _ => faultAhead .eofValue
  | fuel + 1, stack => do
    match ← skipBlank with
    | none => faultAhead .eofValue
    | some b =>
      if b = 0x5B ∨ b = 0x7B then
        eat
        closeWith fuel b stack false
      else
        if b = 0x6E then eat; ident [0x75, 0x6C, 0x6C]
        else if b = 0x74 then eat; ident [0x72, 0x75, 0x65]
        else if b = 0x66 then eat; ident [0x61, 0x6C, 0x73, 0x65]
        else if b = 0x2D then eat; scan skipNumber
        else if isDigit b then scan skipNumber
        else if b = 0x22 then eat; scan skipString
        else faultAhead .expectedValue
        match stack with
        | [] => pure ()
        | f :: rest => closeWith fuel f rest true

/-- After a value in frame `frame`: a comma, the frame's end, or its first entry. -/
def closeWith : Nat → UInt8 → List UInt8 → Bool → Reader Unit
  | 0, _, _, _ => faultAhead .eofValue
  | fuel + 1, frame, rest, afterValue => do
    match ← skipBlank with
    | some b =>
      if b = 0x2C ∧ afterValue then
        eat
        if frame = 0x7B then skipKey
        skipWith fuel (frame :: rest)
      else if b = closer frame then
        eat
        match rest with
        | [] => pure ()
        | f :: outer => closeWith fuel f outer true
      else if afterValue then faultAhead (commaFault frame)
      else
        if frame = 0x7B then skipKey
        skipWith fuel (frame :: rest)
    | none => faultAhead (eofFault frame)
end

/-- Skips one value of any kind. -/
def skip : Reader Unit := do
  skipWith (budget (← get).bytes.size) []

/-- Refuses anything but whitespace after the value read. -/
def finish : Reader Unit := do
  match ← skipBlank with
  | some _ => faultAhead .trailingCharacters
  | none => pure ()

/-- Runs a reader over a whole text. -/
def readAll {α : Type} (r : Reader α) (bytes : ByteArray) : Except Error α :=
  (Id.run ((ExceptT.run (do let a ← r; finish; pure a : Reader α)).run { bytes := bytes })).1

end Reader

/-- The value a JSON text holds. -/
def parse (bytes : ByteArray) : Except Error Json := Reader.readAll Reader.value bytes

/-- The value a JSON string holds. -/
def parseString (s : String) : Except Error Json := parse s.toUTF8

end CloudApi.Json
