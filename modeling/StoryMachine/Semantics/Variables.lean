import StoryMachine.Semantics.Basic

/-! Operations on variables and stacks. A user stack is a table whose first word counts the
free slots, which come right after it. -/

namespace StoryMachine

namespace Update

def popUserStack (table : Nat) : Update UInt16 := do
  let slots := (← query (·.memory.readWord table)) + 1
  let value ← query (·.memory.readWord (table + slots.toNat * 2))
  writeWord table slots
  return value

def dropUserStack (table : Nat) (count : UInt16) : Update Unit := do
  let slots ← query (·.memory.readWord table)
  writeWord table (slots + count)

/-- Push a value on a user stack, if it has a free slot, and tell whether it had. -/
def pushUserStack (table : Nat) (value : UInt16) : Update Bool := do
  let slots ← query (·.memory.readWord table)
  if slots = 0 then
    return false
  writeWord (table + slots.toNat * 2) value
  writeWord table (slots - 1)
  return true

end Update

namespace Engine

variable {η : Type}

def stepVariable (step : UInt16 → UInt16) (instruction : Instruction) :
    Engine η Continuation := do
  let operands ← evaluate instruction 1
  let number := byteOperand operands.first
  let value ← peekVariable number
  replaceVariable number (step value)
  proceed instruction

def loadVariable (instruction : Instruction) : Engine η Continuation := do
  let operands ← evaluate instruction 1
  let value ← peekVariable (byteOperand operands.first)
  finishWith instruction value

def storeVariable (instruction : Instruction) : Engine η Continuation := do
  let operands ← evaluate instruction 2
  replaceVariable (byteOperand operands.first) operands.second
  proceed instruction

def pushOperand (instruction : Instruction) : Engine η Continuation := do
  let operands ← evaluate instruction 1
  push operands.first
  proceed instruction

def popOne (instruction : Instruction) : Engine η Continuation := do
  let _ ← readVariable 0
  proceed instruction

def popMany : Nat → Engine η Unit
  | 0 => pure ()
  | count + 1 => do
    let _ ← readVariable 0
    popMany count

/-- Pop a stack into a variable. In version 6 the stack can be a user stack, and the variable is
that of the result. -/
def pull (instruction : Instruction) : Engine η Continuation := do
  if (← version) = .v6 then
    let operands ← evaluate instruction 0
    let value ← match operands.get? 0 with
      | some table => update (Update.popUserStack table.toNat)
      | none => readVariable 0
    finishWith instruction value
  else
    let operands ← evaluate instruction 1
    let value ← readVariable 0
    replaceVariable (byteOperand operands.first) value
    proceed instruction

/-- Drop values from a user stack or from the evaluation stack. -/
def popStack (instruction : Instruction) : Engine η Continuation := do
  let operands ← evaluate instruction 1
  match operands.get? 1 with
  | some table => update (Update.dropUserStack table.toNat operands.first)
  | none => popMany operands.first.toNat
  proceed instruction

/-- Push a value on a user stack and branch if there was room. -/
def pushStack (instruction : Instruction) : Engine η Continuation := do
  let operands ← evaluate instruction 2
  let pushed ← update (Update.pushUserStack operands.second.toNat operands.first)
  branchOn instruction pushed

end Engine

end StoryMachine
