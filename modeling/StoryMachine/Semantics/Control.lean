import StoryMachine.Semantics.Basic
import StoryMachine.Instruction.Decoding

/-! Branches, jumps, calls and returns. -/

namespace StoryMachine.Engine

variable {η : Type}

def branchUnary (test : UInt16 → Bool) (instruction : Instruction) : Engine η Continuation := do
  let operands ← evaluate instruction 1
  branchOn instruction (test operands.first)

def branchBinary (test : UInt16 → UInt16 → Bool) (instruction : Instruction) :
    Engine η Continuation := do
  let operands ← evaluate instruction 2
  branchOn instruction (test operands.first operands.second)

/-- Branch if the first operand equals any of the others. -/
def branchEqual (instruction : Instruction) : Engine η Continuation := do
  let operands ← evaluate instruction 2
  branchOn instruction (operands.first ∈ operands.rest)

/-- Change a variable by a step and branch on a test of its new value with the second operand. -/
def stepAndBranch (step : UInt16 → UInt16) (test : UInt16 → UInt16 → Bool)
    (instruction : Instruction) : Engine η Continuation := do
  let operands ← evaluate instruction 2
  let number := byteOperand operands.first
  let value := step (← peekVariable number)
  replaceVariable number value
  branchOn instruction (test value operands.second)

def signedLess (first second : UInt16) : Bool :=
  first.toInt16 < second.toInt16

def signedGreater (first second : UInt16) : Bool :=
  second.toInt16 < first.toInt16

/-- Are all bits of the second word set in the first? -/
def hasBits (first second : UInt16) : Bool :=
  first &&& second = second

def jump (instruction : Instruction) : Engine η Continuation := do
  let operands ← evaluate instruction 1
  return .goto (Instruction.relativeAddress instruction.next operands.first.toInt16.toInt)

/-- Call a routine with the operands after the first, of which there must be enough. -/
def callRoutine (required : Nat) (instruction : Instruction) : Engine η Continuation := do
  let operands ← evaluate instruction required
  callPacked instruction operands.first operands.rest

/-- Call a routine without arguments, whatever further operands there are. -/
def callPlain (instruction : Instruction) : Engine η Continuation := do
  let operands ← evaluate instruction 1
  callPacked instruction operands.first []

def returnOperand (instruction : Instruction) : Engine η Continuation := do
  let operands ← evaluate instruction 1
  returnValue operands.first

def returnPopped : Engine η Continuation := do
  let value ← readVariable 0
  returnValue value

def catchFrame (instruction : Instruction) : Engine η Continuation := do
  let depth := (← get).stack.depth
  finishWith instruction (UInt16.ofNat depth)

def throwValue (instruction : Instruction) : Engine η Continuation := do
  let operands ← evaluate instruction 2
  throwTo operands.second.toNat operands.first

def checkArgumentCount (instruction : Instruction) : Engine η Continuation := do
  let operands ← evaluate instruction 1
  let top ← queryStack (·.top)
  branchOn instruction (operands.first ≤ top.argumentCount.toUInt16)

def verify (instruction : Instruction) : Engine η Continuation := do
  branchOn instruction (← get).story.memory.isIntact

end StoryMachine.Engine
