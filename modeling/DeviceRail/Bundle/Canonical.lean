import DeviceRail.Support.Sequence
import Mathlib.Data.String.Basic

/-!
# Canonical JSON

The deterministic encoding of session bundles: objects with sorted keys,
nothing between tokens, one line feed at the end.  The text form of a single
number or string is the JSON library's and enters as a parameter; the grammar
around it, for reading and for writing, is spelled out.  The reader is the
library's, with its blanks, its repeated keys and its limit on nesting, so
that it accepts far more than the writer produces.
-/

variable {ν : Type}

namespace DeviceRail.CanonicalJson

/-- A JSON value over any type of numbers.  The entries of an object are in
some order. -/
inductive Json (ν : Type) where
  | null
  | bool (value : Bool)
  | number (value : ν)
  | string (value : String)
  | array (values : List (Json ν))
  | object (entries : List (String × Json ν))

/-- The text form of single numbers and strings. -/
structure Scalars (ν : Type) where
  writeNumber : ν → List UInt8
  writeString : String → List UInt8
  parseNumber : List UInt8 → Option (ν × List UInt8)
  parseString : List UInt8 → Option (String × List UInt8)

def ascii (text : String) : List UInt8 := text.toList.map Char.toUInt8

def comma : UInt8 := ','.toUInt8
def colon : UInt8 := ':'.toUInt8
def quote : UInt8 := '"'.toUInt8
def lineFeed : UInt8 := '\n'.toUInt8
def openArray : UInt8 := '['.toUInt8
def closeArray : UInt8 := ']'.toUInt8
def openObject : UInt8 := '\x7b'.toUInt8
def closeObject : UInt8 := '\x7d'.toUInt8

/-- The entries of an object in the order of their keys. -/
def sortEntries {α : Type} (entries : List (String × α)) : List (String × α) :=
  entries.mergeSort fun a b => a.1 ≤ b.1

section

variable (scalars : Scalars ν)

/-- A key with the text of its value. -/
def writeEntry (entry : String × List UInt8) : List UInt8 :=
  scalars.writeString entry.1 ++ colon :: entry.2

mutual

def writeValue : Json ν → List UInt8
  | .null => ascii "null"
  | .bool true => ascii "true"
  | .bool false => ascii "false"
  | .number value => scalars.writeNumber value
  | .string value => scalars.writeString value
  | .array values =>
    openArray :: (Sequence.join comma (writeValues values) ++ [closeArray])
  | .object entries =>
    openObject :: (Sequence.join comma
      ((sortEntries (writeEntries entries)).map (writeEntry scalars)) ++
        [closeObject])

def writeValues : List (Json ν) → List (List UInt8)
  | [] => []
  | value :: values => writeValue value :: writeValues values

/-- The keys with the texts of their values. -/
def writeEntries : List (String × Json ν) → List (String × List UInt8)
  | [] => []
  | (key, value) :: entries => (key, writeValue value) :: writeEntries entries

end

def toCanonicalBytes (value : Json ν) : List UInt8 :=
  writeValue scalars value ++ [lineFeed]

end

/-! ## The library's reader -/

inductive CanonicalJsonError where
  | json
  | nonCanonical
deriving DecidableEq, Repr

/-- The reader's countdown starts at 128 and fails when it reaches zero. -/
def maxNesting : ℕ := 127

def isSpace (byte : UInt8) : Bool :=
  byte == ' '.toUInt8 || byte == '\n'.toUInt8 || byte == '\t'.toUInt8 ||
    byte == '\r'.toUInt8

def isNumberStart (byte : UInt8) : Bool :=
  byte == '-'.toUInt8 || ('0'.toUInt8 ≤ byte && byte ≤ '9'.toUInt8)

def arrayMarks : Sequence.Marks UInt8 := ⟨isSpace, comma, closeArray⟩

def objectMarks : Sequence.Marks UInt8 := ⟨isSpace, comma, closeObject⟩

/-- Insert into the map of an object: the last of equal keys stays. -/
def insertEntry {α : Type} (map : List (String × α)) (entry : String × α) :
    List (String × α) :=
  map.filter (·.1 != entry.1) ++ [entry]

def collect {α : Type} (entries : List (String × α)) : List (String × α) :=
  entries.foldl insertEntry []

section

variable (scalars : Scalars ν)

def parseLiteral (text : String) (value : Json ν) (input : List UInt8) :
    Option (Json ν × List UInt8) :=
  if (ascii text).isPrefixOf input then
    some (value, input.drop (ascii text).length)
  else none

def parseEntry (item : List UInt8 → Option (Json ν × List UInt8))
    (input : List UInt8) : Option ((String × Json ν) × List UInt8) :=
  match input.dropWhile isSpace with
  | [] => none
  | byte :: rest =>
    if byte = quote then do
      let (key, rest) ← scalars.parseString (byte :: rest)
      match rest.dropWhile isSpace with
      | [] => none
      | byte :: rest =>
        if byte = colon then do
          let (value, rest) ← item rest
          return ((key, value), rest)
        else none
    else none

/-- Read a value, with the reader for what is inside it unless the limit on
nesting is reached. -/
def parseNested (inner : Option (List UInt8 → Option (Json ν × List UInt8)))
    (input : List UInt8) : Option (Json ν × List UInt8) :=
  match input.dropWhile isSpace with
  | [] => none
  | byte :: rest =>
    if byte = 'n'.toUInt8 then parseLiteral "null" .null (byte :: rest)
    else if byte = 't'.toUInt8 then
      parseLiteral "true" (.bool true) (byte :: rest)
    else if byte = 'f'.toUInt8 then
      parseLiteral "false" (.bool false) (byte :: rest)
    else if byte = quote then do
      let (value, rest) ← scalars.parseString (byte :: rest)
      return (.string value, rest)
    else if isNumberStart byte then do
      let (value, rest) ← scalars.parseNumber (byte :: rest)
      return (.number value, rest)
    else if byte = openArray then do
      let item ← inner
      let (values, rest) ← Sequence.read arrayMarks item rest
      return (.array values, rest)
    else if byte = openObject then do
      let item ← inner
      let (entries, rest) ←
        Sequence.read objectMarks (parseEntry scalars item) rest
      return (.object (collect entries), rest)
    else none

/-- Read a value with at most so many arrays and objects inside each other. -/
def parseValue : ℕ → List UInt8 → Option (Json ν × List UInt8)
  | 0 => parseNested scalars none
  | nesting + 1 => parseNested scalars (some (parseValue nesting))

/-- `serde_json::from_slice`: a value, and nothing but blanks after it. -/
def parseDocument (input : List UInt8) : Option (Json ν) := do
  let (value, rest) ← parseValue scalars maxNesting input
  if rest.all isSpace then some value else none

def fromCanonicalSlice (input : List UInt8) :
    Except CanonicalJsonError (Json ν) :=
  match parseDocument scalars input with
  | none => .error .json
  | some value =>
    if toCanonicalBytes scalars value = input then .ok value
    else .error .nonCanonical

end

/-! ## Values up to the order of keys -/

namespace Json

mutual

/-- No object repeats a key. -/
def WellFormed : Json ν → Prop
  | .array values => WellFormedList values
  | .object entries => (entries.map Prod.fst).Nodup ∧ WellFormedEntries entries
  | _ => True

def WellFormedList : List (Json ν) → Prop
  | [] => True
  | value :: values => value.WellFormed ∧ WellFormedList values

def WellFormedEntries : List (String × Json ν) → Prop
  | [] => True
  | (_, value) :: entries => value.WellFormed ∧ WellFormedEntries entries

end

mutual

/-- The number of arrays and objects inside each other. -/
def nesting : Json ν → ℕ
  | .array values => nestingList values + 1
  | .object entries => nestingEntries entries + 1
  | _ => 0

def nestingList : List (Json ν) → ℕ
  | [] => 0
  | value :: values => max value.nesting (nestingList values)

def nestingEntries : List (String × Json ν) → ℕ
  | [] => 0
  | (_, value) :: entries => max value.nesting (nestingEntries entries)

end

mutual

/-- Equality of values: the entries of an object are compared by key. -/
def Equal : Json ν → Json ν → Prop
  | .null, other => other = .null
  | .bool value, other => other = .bool value
  | .number value, other => other = .number value
  | .string value, other => other = .string value
  | .array values, other =>
    ∃ values', other = .array values' ∧ EqualLists values values'
  | .object entries, other =>
    ∃ entries', other = .object entries' ∧
      entries.length = entries'.length ∧ EqualEntries entries entries'

def EqualLists : List (Json ν) → List (Json ν) → Prop
  | [], others => others = []
  | value :: values, others =>
    ∃ other others', others = other :: others' ∧ Equal value other ∧
      EqualLists values others'

/-- Every entry has an equal one under its key. -/
def EqualEntries :
    List (String × Json ν) → List (String × Json ν) → Prop
  | [], _ => True
  | (key, value) :: entries, others =>
    (∃ other, others.lookup key = some other ∧ Equal value other) ∧
      EqualEntries entries others

end

end Json

end DeviceRail.CanonicalJson
