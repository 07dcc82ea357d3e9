import StoryMachine.Machine.Output
import StoryMachine.Machine.Tokens
import StoryMachine.Semantics.Basic

/-! Operations that print, and those on text in memory. -/

namespace StoryMachine

namespace Memory

/-- The lines of a formatted table: each a length word and that many characters, up to a length
of 0. If the table runs out of memory, the lines before come with the error. -/
def formLines (memory : Memory) (address : Nat) : List (List Zscii) × Option Error :=
  if address + 1 < memory.size then
    let length := (memory.wordAt address).toNat
    if length = 0 then ([], none)
    else
      match memory.readBytes (address + 2) length with
      | .error error => ([], some error)
      | .ok characters =>
        let (lines, error) := memory.formLines (address + 2 + length)
        (characters.map UInt8.toUInt16 :: lines, error)
  else
    ([], some (.wordBeyondMemory address (memory.size - 1)))
termination_by memory.size - address

end Memory

namespace Engine

variable {η : Type} [Presentation η]

def printFollowing (instruction : Instruction) : Engine η Unit := do
  let words ← query (·.memory.textWords (instruction.address + 1))
  let text ← decodeWords words
  print text

def printLiteral (instruction : Instruction) : Engine η Continuation := do
  printFollowing instruction
  proceed instruction

/-- Print the text that follows and a new line, and return true. -/
def printAndReturn (instruction : Instruction) : Engine η Continuation := do
  printFollowing instruction
  newLine
  returnValue 1

def printAt (address : Story → UInt16 → Nat) (instruction : Instruction) :
    Engine η Continuation := do
  let operands ← evaluate instruction 1
  let text ← decodeAt (address (← get).story operands.first)
  print text
  proceed instruction

def printObject (instruction : Instruction) : Engine η Continuation := do
  let operands ← evaluate instruction 1
  let name ← query (·.shortName operands.first.toNat)
  let text ← decodeWords name
  print text
  proceed instruction

def printOperand (text : UInt16 → List Zscii) (instruction : Instruction) :
    Engine η Continuation := do
  let operands ← evaluate instruction 1
  print (text operands.first)
  proceed instruction

def numberText (value : UInt16) : List Zscii :=
  Zscii.ofString (toString value.toInt16.toInt)

/-- A Unicode character, or a question mark if ZSCII does not have it. -/
def unicodeText (value : UInt16) : List Zscii :=
  [(Zscii.ofUnicode? value.toNat).getD 63]

/-- Store whether a Unicode character can be printed, in bit 0, and read, in bit 1. -/
def checkUnicode (instruction : Instruction) : Engine η Continuation := do
  let operands ← evaluate instruction 1
  finishWith instruction (if (Zscii.ofUnicode? operands.first.toNat).isSome then 3 else 0)

def printNewLine (instruction : Instruction) : Engine η Continuation := do
  newLine
  proceed instruction

/-- Show the status line, which only version 3 does on request. -/
def showStatusLine (instruction : Instruction) : Engine η Continuation := do
  if (← version) = .v3 then
    showStatus
  proceed instruction

/-- Print `count` rows of a table from row `index` on, each below the one before: on the screen
at the cursor's column, in a captured text on a new line. -/
def printRows (width skip : Nat) (cursor : UInt16 × UInt16) (address index : Nat) :
    Nat → Engine η Unit
  | 0 => pure ()
  | count + 1 => do
    if 0 < index then
      if (← get).captures.isEmpty then
        notify (.setCursor (Int16.ofNat (cursor.1.toNat + index)) cursor.2 (-3))
      else
        newLine
    let row ← query (·.memory.readBytes address width)
    print (row.map UInt8.toUInt16)
    printRows width skip cursor (address + width + skip) (index + 1) count

def printTable (instruction : Instruction) : Engine η Continuation := do
  let operands ← evaluate instruction 2
  let height := (operands.get? 2).elim 1 UInt16.toNat
  let skip := (operands.get? 3).elim 0 UInt16.toNat
  let cursor ← ask Presentation.cursor
  printRows operands.second.toNat skip cursor operands.first.toNat 0 height
  proceed instruction

def printForm (instruction : Instruction) : Engine η Continuation := do
  let operands ← evaluate instruction 1
  let (lines, error) := (← get).story.memory.formLines operands.first.toNat
  for line in lines do
    print line
    newLine
  if let some error := error then
    throw error
  proceed instruction

def tokeniseBuffer (instruction : Instruction) : Engine η Continuation := do
  let operands ← evaluate instruction 2
  let standard := (← get).story.memory.headerWord .dictionary
  let dictionary := (operands.get? 2).getD 0
  let dictionary := if dictionary = 0 then standard else dictionary
  let skipUnknown := (operands.get? 3).getD 0 ≠ 0
  tokenise operands.first.toNat operands.second.toNat dictionary.toNat skipUnknown
  proceed instruction

def encodeText (instruction : Instruction) : Engine η Continuation := do
  let operands ← evaluate instruction 4
  update (Update.encodeText operands.first.toNat operands.second.toNat operands.third.toNat
    operands.fourth.toNat)
  proceed instruction

end Engine

end StoryMachine
