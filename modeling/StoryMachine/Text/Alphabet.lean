import StoryMachine.Story
import StoryMachine.Text.Zscii

/-! Alphabets: three rows of 26 characters for the z-characters 6 to 31. The first place of
the last row is the escape that spells a character by its code, so it is never found. -/

namespace StoryMachine

/-- The three rows, one after the other. -/
structure Alphabet where
  cells : Vector Zscii 78
  deriving DecidableEq

namespace Alphabet

abbrev rowLength : Nat := 26

/-- The first z-character that stands for a cell of a row. -/
abbrev firstLetter : Nat := 6

/-- The cell of the escape, first in the last row. -/
def escapeCell : Nat := 52

def ofCodes (codes : List Nat) : Alphabet :=
  ⟨Vector.ofFn fun index => UInt16.ofNat (codes.getD index 0)⟩

private def letters : List Nat :=
  List.range' 97 26 ++ List.range' 65 26

private def digits : List Nat :=
  List.range' 48 10

/-- The alphabet of version 1: after the escape, digits and `.,!?_#` and quotes, `/\<-:()`. -/
def first : Alphabet :=
  ofCodes (letters ++ [32] ++ digits ++
    [46, 44, 33, 63, 95, 35, 39, 34, 47, 92, 60, 45, 58, 40, 41])

/-- The alphabet from version 2: a new line after the escape, and no `<`. -/
def standard : Alphabet :=
  ofCodes (letters ++ [32, 13] ++ digits ++
    [46, 44, 33, 63, 95, 35, 39, 34, 47, 92, 45, 58, 40, 41])

/-- An alphabet table in memory. The escape and the new line keep their places. -/
def ofTable (memory : Memory) (address : Nat) : Except Error Alphabet := do
  let codes ← memory.readBytes address 78
  return ofCodes (((codes.map UInt8.toNat).set escapeCell 0).set (escapeCell + 1) 13)

def ofStory (story : Story) : Except Error Alphabet :=
  let table := (story.memory.headerWord .alphabetTable).toNat
  if story.version = .v1 then .ok first
  else if story.version.allowsAlphabetTable ∧ table ≠ 0 then ofTable story.memory table
  else .ok standard

/-- The cell of a z-character in a row. Rows repeat after three and letters after 26. -/
def cell (row zchar : Nat) : Fin 78 :=
  ⟨rowLength * (row % 3) + (zchar - firstLetter) % rowLength, by simp only [rowLength]; omega⟩

def character (alphabet : Alphabet) (row zchar : Nat) : Zscii :=
  alphabet.cells[cell row zchar]

/-- The row and z-character of a character, where it first occurs. -/
def find? (alphabet : Alphabet) (code : Zscii) : Option (Nat × Nat) :=
  ((List.finRange 78).find? fun index =>
      index.val ≠ escapeCell ∧ alphabet.cells[index] = code).map fun index =>
    (index.val / rowLength, index.val % rowLength + firstLetter)

end Alphabet

end StoryMachine
