import StoryMachine.Error

/-! The eight versions of the story format, and the sizes and rules that differ between them. -/

namespace StoryMachine

inductive Version where
  | v1
  | v2
  | v3
  | v4
  | v5
  | v6
  | v7
  | v8
  deriving DecidableEq, Repr

/-- How z-characters 1 to 5 select alphabets and abbreviations. -/
inductive ShiftScheme where
  /-- Shifts and locks, no abbreviations, a z-character for the new line. -/
  | legacy
  /-- Shifts and locks, one bank of abbreviations. -/
  | locking
  /-- Shifts for one character, three banks of abbreviations. -/
  | shifting
  deriving DecidableEq, Repr

namespace Version

def number : Version → Nat
  | v1 => 1
  | v2 => 2
  | v3 => 3
  | v4 => 4
  | v5 => 5
  | v6 => 6
  | v7 => 7
  | v8 => 8

def ofNumber? : Nat → Option Version
  | 1 => some v1
  | 2 => some v2
  | 3 => some v3
  | 4 => some v4
  | 5 => some v5
  | 6 => some v6
  | 7 => some v7
  | 8 => some v8
  | _ => none

/-- The version whose rules a number comes under: a number that no version has goes with the
closest one. -/
def nearest (number : Nat) : Version :=
  (ofNumber? number).getD (if number < 1 then v1 else v8)

instance : LT Version where
  lt first second := first.number < second.number

instance : LE Version where
  le first second := first.number ≤ second.number

instance (first second : Version) : Decidable (first < second) :=
  inferInstanceAs (Decidable (first.number < second.number))

instance (first second : Version) : Decidable (first ≤ second) :=
  inferInstanceAs (Decidable (first.number ≤ second.number))

/-- Bytes per unit of a packed address. -/
def packedUnit (version : Version) : Nat :=
  if version < v4 then 2 else if version < v8 then 4 else 8

/-- Bytes per unit of the file length in the header. -/
def lengthUnit (version : Version) : Nat :=
  if version < v4 then 2 else if version < v6 then 4 else 8

/-- Versions 6 and 7 add an offset to packed addresses, in units of eight bytes. -/
def hasPackedOffsets (version : Version) : Bool :=
  version = v6 ∨ version = v7

def shiftScheme : Version → ShiftScheme
  | v1 => .legacy
  | v2 => .locking
  | _ => .shifting

def abbreviationBanks (version : Version) : Nat :=
  match version.shiftScheme with
  | .legacy => 0
  | .locking => 1
  | .shifting => 3

/-- From version 5 a story can bring its own alphabet table. -/
def allowsAlphabetTable (version : Version) : Bool :=
  v5 ≤ version

def objectEntrySize (version : Version) : Nat :=
  if version < v4 then 9 else 14

def maxObject (version : Version) : Nat :=
  if version < v4 then 255 else 65535

/-- The number of entries in the table of property defaults. -/
def propertyDefaults (version : Version) : Nat :=
  if version < v4 then 31 else 63

def maxProperty (version : Version) : Nat :=
  version.propertyDefaults

def attributeCount (version : Version) : Nat :=
  if version < v4 then 32 else 48

def dictionaryWordLength (version : Version) : Nat :=
  if version < v4 then 6 else 9

/-- Bytes in an encoded dictionary word: three z-characters make a word of two bytes. -/
def dictionaryWordBytes (version : Version) : Nat :=
  version.dictionaryWordLength / 3 * 2

end Version

/-- A version together with the header's offsets for packed addresses, fixed when a story is
loaded. -/
structure Format where
  version : Version
  routinesOffset : UInt16
  stringsOffset : UInt16
  deriving DecidableEq, Repr

namespace Format

def ofNumber (number : Nat) (routinesOffset stringsOffset : UInt16) : Except Error Format :=
  match Version.ofNumber? number with
  | some version => .ok ⟨version, routinesOffset, stringsOffset⟩
  | none => .error (.unsupportedVersion number)

private def unpack (format : Format) (offset packed : UInt16) : Nat :=
  packed.toNat * format.version.packedUnit +
    if format.version.hasPackedOffsets then offset.toNat * 8 else 0

def routineAddress (format : Format) (packed : UInt16) : Nat :=
  format.unpack format.routinesOffset packed

def stringAddress (format : Format) (packed : UInt16) : Nat :=
  format.unpack format.stringsOffset packed

end Format

end StoryMachine
