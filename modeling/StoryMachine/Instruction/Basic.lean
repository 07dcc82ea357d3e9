import StoryMachine.Instruction.Operation
import StoryMachine.Numeral

/-! Instructions as they stand in memory, and their listing. -/

namespace StoryMachine
open Numeral

inductive Form where
  | short
  | long
  | var
  | extended
  deriving DecidableEq, Repr

structure Opcode where
  version : Version
  /-- The opcode byte, the second one of an extended opcode. -/
  byte : UInt8
  /-- The number within its arity. -/
  number : UInt8
  form : Form
  arity : Arity
  deriving DecidableEq, Repr

namespace Opcode

/-- The operation an opcode means, whether or not its version has it. -/
def operation? (opcode : Opcode) : Option Operation :=
  match opcode.form with
  | .extended => Operation.ofExtended? opcode.number.toNat
  | _ => Operation.ofNumber? opcode.version opcode.arity opcode.number.toNat

def mnemonic (opcode : Opcode) : String :=
  match opcode.operation? with
  | some operation => operation.mnemonic opcode.version
  | none => "UNKNOWN!"

def stores (opcode : Opcode) : Bool :=
  opcode.operation?.any (·.stores opcode.version)

def branches (opcode : Opcode) : Bool :=
  opcode.operation?.any (·.branches opcode.version)

def hasLiteral (opcode : Opcode) : Bool :=
  opcode.operation?.any (·.hasLiteral)

end Opcode

inductive OperandKind where
  | largeConstant
  | smallConstant
  | var
  deriving DecidableEq, Repr

structure Operand where
  kind : OperandKind
  value : UInt16
  deriving DecidableEq, Repr

structure Store where
  /-- The address of the byte that names the variable. -/
  address : Nat
  /-- 0 is the stack, 1 to 15 are locals, the rest are globals. -/
  target : UInt8
  deriving DecidableEq, Repr

/-- Where an instruction goes when its test comes out as `condition`. -/
structure Branch where
  /-- The address of the first byte that describes the branch. -/
  address : Nat
  condition : Bool
  /-- The address to go to; 0 and 1 return false and true instead. -/
  target : Nat
  deriving DecidableEq, Repr

structure Instruction where
  address : Nat
  opcode : Opcode
  operands : List Operand
  store : Option Store
  branch : Option Branch
  /-- The address after the instruction. -/
  next : Nat
  deriving DecidableEq, Repr

private def renderVariable (number : Nat) : String :=
  if number < 16 then "L" ++ hex 2 (number - 1) else "G" ++ hex 2 (number - 16)

def Operand.render (operand : Operand) : String :=
  match operand.kind with
  | .largeConstant => "#" ++ hex 4 operand.value.toNat
  | .smallConstant => "#" ++ hex 2 (operand.value.toNat % 256)
  | .var => if operand.value = 0 then "(SP)+" else renderVariable operand.value.toNat

def Store.render (store : Store) : String :=
  if store.target = 0 then "-(SP)" else renderVariable store.target.toNat

def Branch.render (branch : Branch) : String :=
  let target := match branch.target with
    | 0 => "RFALSE"
    | 1 => "RTRUE"
    | address => "$" ++ hex 5 address
  s!"[{branch.condition}] {target}"

def Instruction.render (instruction : Instruction) : String :=
  let operands := instruction.operands.map fun operand => " " ++ operand.render
  let store := instruction.store.elim "" fun store => " -> " ++ store.render
  let branch := instruction.branch.elim "" fun branch => " " ++ branch.render
  s!"${hex 5 instruction.address}: {instruction.opcode.mnemonic}" ++ String.join operands ++
    store ++ branch

end StoryMachine
