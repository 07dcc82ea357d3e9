import StoryMachine.Instruction.Decoding
import StoryMachine.Machine.Saving
import StoryMachine.Semantics.Basic

/-! Saving, restoring and undoing. A restored game goes on after the instruction that saved it,
which is told apart from a plain save by its result. -/

namespace StoryMachine.Engine

variable {η : Type}

/-- Branch on whether a save or restore worked, or store it. -/
def finishSave (instruction : Instruction) (success : Bool) : Engine η Continuation :=
  if instruction.branch.isSome then branchOn instruction success
  else finishWith instruction (if success then 1 else 0)

/-- Go on after a state taken at an address has been restored: where the instruction there
branches, take the branch; otherwise its result is 2. -/
def resumeAfter (address : Nat) : Engine η Continuation := do
  let instruction ← query (·.decodeInstruction address)
  if instruction.branch.isSome then branchOn instruction true
  else finishWith instruction 2

def save [SaveStore η] (instruction : Instruction) : Engine η Continuation := do
  let success ← saveGame instruction.address
  finishSave instruction success

def restore [SaveStore η] (instruction : Instruction) : Engine η Continuation := do
  match ← restoreGame with
  | some address => resumeAfter address
  | none => finishSave instruction false

/-- The save of the later versions takes operands, to save a table; all is saved in any case. -/
def saveExtended [SaveStore η] (instruction : Instruction) : Engine η Continuation := do
  let _ ← evaluate instruction 0
  let success ← saveGame instruction.address
  finishWith instruction (if success then 1 else 0)

def restoreExtended [SaveStore η] (instruction : Instruction) : Engine η Continuation := do
  let _ ← evaluate instruction 0
  match ← restoreGame with
  | some address => resumeAfter address
  | none => finishWith instruction 0

def takeUndo (instruction : Instruction) : Engine η Continuation := do
  saveUndo instruction.address
  finishWith instruction 1

def undo (instruction : Instruction) : Engine η Continuation := do
  match ← restoreUndo with
  | some address => resumeAfter address
  | none => finishWith instruction 0

end StoryMachine.Engine
