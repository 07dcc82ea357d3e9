import StoryMachine.Machine.Routines

/-! What the operations have in common: evaluating operands, storing a result, branching, and
calling a routine. -/

namespace StoryMachine

structure Operands where
  values : List UInt16
  deriving DecidableEq, Repr

namespace Operands

/-- An operand that may have been left out. -/
def get? (operands : Operands) (index : Nat) : Option UInt16 :=
  operands.values[index]?

private def get (operands : Operands) (index : Nat) : UInt16 :=
  (operands.get? index).getD 0

def first (operands : Operands) : UInt16 := operands.get 0
def second (operands : Operands) : UInt16 := operands.get 1
def third (operands : Operands) : UInt16 := operands.get 2
def fourth (operands : Operands) : UInt16 := operands.get 3

def rest (operands : Operands) : List UInt16 :=
  operands.values.drop 1

end Operands

/-- The low byte of an operand, where an operation takes a number of eight bits. -/
def byteOperand (value : UInt16) : Nat :=
  value.toNat % 256

namespace Engine

variable {η : Type}

/-- The value of an operand. A variable operand that names the stack pops it. -/
def operandValue (operand : Operand) : Engine η UInt16 :=
  match operand.kind with
  | .largeConstant | .smallConstant => pure operand.value
  | .var => readVariable (byteOperand operand.value)

/-- The values of the operands, in order. With fewer than `required` of them nothing is
evaluated. -/
def evaluate (instruction : Instruction) (required : Nat) : Engine η Operands := do
  let found := instruction.operands.length
  if found < required then
    throw (.tooFewOperands instruction.opcode.mnemonic required found)
  return ⟨← instruction.operands.mapM operandValue⟩

def proceed (instruction : Instruction) : Engine η Continuation :=
  return .goto instruction.next

def storeResult (instruction : Instruction) (value : UInt16) : Engine η Unit :=
  match instruction.store with
  | some store => writeVariable store.target.toNat value
  | none => pure ()

def finishWith (instruction : Instruction) (value : UInt16) : Engine η Continuation := do
  storeResult instruction value
  proceed instruction

/-- Take the branch of an instruction if the test comes out as it asks. -/
def branchOn (instruction : Instruction) (condition : Bool) : Engine η Continuation :=
  match instruction.branch with
  | none => proceed instruction
  | some branch =>
    if condition = branch.condition then
      match branch.target with
      | 0 => returnValue 0
      | 1 => returnValue 1
      | address => pure (.goto address)
    else proceed instruction

/-- Call the routine at a packed address. Whether there is a result to store makes it a function
or a procedure. -/
def callPacked (instruction : Instruction) (packed : UInt16) (arguments : List UInt16) :
    Engine η Continuation := do
  let address := (← get).story.format.routineAddress packed
  let kind := instruction.store.elim RoutineKind.procedure RoutineKind.function
  call address arguments kind instruction.next

end Engine

end StoryMachine
