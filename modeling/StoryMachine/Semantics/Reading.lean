import StoryMachine.Machine.Output
import StoryMachine.Machine.Tokens
import StoryMachine.Semantics.Basic

/-! Reading lines and characters. A read suspends the machine with a request; when the input is
there, it is put where the story wants it. -/

namespace StoryMachine

namespace Memory

def zeroByteFrom (memory : Memory) (address : Nat) : Except Error Nat :=
  if address < memory.size then
    if memory.byteAt address = 0 then .ok address else memory.zeroByteFrom (address + 1)
  else
    .error (.byteBeyondMemory address (memory.size - 1))
termination_by memory.size - address

end Memory

def isTerminatingCode (code : Zscii) : Bool :=
  (129 ≤ code ∧ code ≤ 154) ∨ (252 ≤ code ∧ code ≤ 255)

namespace Story

/-- How many characters a text buffer holds. Up to version 4 one byte is for the zero that ends
the text. -/
def bufferCapacity (story : Story) (buffer : Nat) : Except Error Nat := do
  let size ← story.memory.readByte buffer
  return if story.version < .v5 then size.toNat - 1 else size.toNat

/-- The text that a buffer holds before a read, from version 5 on. -/
def preloaded (story : Story) (buffer capacity : Nat) : Except Error (List Zscii) := do
  if story.version < .v5 then
    return []
  let count ← story.memory.readByte (buffer + 1)
  let characters ← story.memory.readBytes (buffer + 2) (min count.toNat capacity)
  return characters.map UInt8.toUInt16

/-- The codes that end a line, from the table that the header of versions from 5 points to. -/
def terminators (story : Story) : Except Error (List Zscii) := do
  let table := (story.memory.headerWord .terminatorTable).toNat
  if story.version < .v5 ∨ table = 0 then
    return []
  let stop ← story.memory.zeroByteFrom table
  let codes := (List.range' table (stop - table)).map fun place =>
    (story.memory.byteAt place).toUInt16
  return codes.filter isTerminatingCode

/-- The timeout and the interrupt routine of a timed read, which versions from 4 have. Both
operands must be there. -/
def timing (story : Story) (timeout routine : Option UInt16) : UInt16 × Nat :=
  match timeout, routine with
  | some timeout, some routine =>
    if story.version < .v4 then (0, 0) else (timeout, story.format.routineAddress routine)
  | _, _ => (0, 0)

end Story

namespace Update

/-- Put a line in a text buffer, cut to what it holds: up to version 4 with a zero after it,
later with its length before it. -/
def writeLine (buffer : Nat) (line : List Zscii) : Update Unit := do
  let capacity ← query (·.bufferCapacity buffer)
  let characters := (line.take capacity).map lowByte
  if (← get).version < .v5 then
    writeBytes (buffer + 1) (characters ++ [0])
  else
    writeBytes (buffer + 1) (UInt8.ofNat characters.length :: characters)

end Update

namespace Engine

variable {η : Type}

/-- Suspend the machine until there is input for an instruction. -/
def await (instruction : Instruction) (operands : Operands) (request : InputRequest) :
    Engine η Continuation := do
  modify fun machine =>
    { machine with
      pending := some
        { instruction, operands := operands.values, request, input := request.preloaded } }
  return .await request

def readCharacter (instruction : Instruction) : Engine η Continuation := do
  let operands ← evaluate instruction 0
  let (timeout, routine) := (← get).story.timing (operands.get? 1) (operands.get? 2)
  await instruction operands (.character timeout routine)

variable [Presentation η]

/-- Ask for a line. Up to version 3 the status line is shown first. -/
def readLine (instruction : Instruction) : Engine η Continuation := do
  let operands ← evaluate instruction 1
  if (← version) < .v4 then
    showStatus
  let buffer := operands.first.toNat
  let capacity ← query (·.bufferCapacity buffer)
  let preloaded ← query (·.preloaded buffer capacity)
  let terminators ← query (·.terminators)
  let (timeout, routine) := (← get).story.timing (operands.get? 2) (operands.get? 3)
  await instruction operands (.line capacity preloaded terminators timeout routine)

/-- Put a line where a read wants it, note its words in the parse buffer if there is one, and
from version 5 store what ended it. -/
def finishLine (instruction : Instruction) (operands : Operands) (line : List Zscii)
    (terminator : Zscii) : Engine η Continuation := do
  let buffer := operands.first.toNat
  update (Update.writeLine buffer line)
  let parseBuffer := operands.second.toNat
  if parseBuffer ≠ 0 then
    let dictionary := (← get).story.memory.headerWord .dictionary
    tokenise buffer parseBuffer dictionary.toNat false
  if .v5 ≤ (← version) then
    storeResult instruction terminator
  proceed instruction

end Engine

end StoryMachine
