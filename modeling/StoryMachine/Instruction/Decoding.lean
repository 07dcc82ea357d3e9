import StoryMachine.Instruction.Basic
import StoryMachine.Text.ZString

/-! Decoding instructions. A reading position moves through memory over the opcode, the operand
kinds, the operands, the result variable, the branch and the literal text, as far as the opcode
has them. -/

namespace StoryMachine

/-- Reads from memory, each starting where the last one stopped. -/
abbrev Scan := StateT Nat (Except Error)

namespace Scan

def nextByte (memory : Memory) : Scan UInt8 := fun address => do
  let value ← memory.readByte address
  return (value, address + 1)

def nextWord (memory : Memory) : Scan UInt16 := fun address => do
  let value ← memory.readWord address
  return (value, address + 2)

end Scan

namespace OperandKind

/-- The kind of two bits; 3 is an operand left out. -/
def ofBits? (bits : Nat) : Option OperandKind :=
  match bits % 4 with
  | 0 => some largeConstant
  | 1 => some smallConstant
  | 2 => some var
  | _ => none

/-- The kinds in a byte, from the top bits down to the first operand left out. -/
def ofByte (byte : UInt8) : List OperandKind :=
  let kinds := [byte.toNat / 64, byte.toNat / 16, byte.toNat / 4, byte.toNat].map ofBits?
  (kinds.takeWhile Option.isSome).filterMap id

def ofBit (bit : Nat) : OperandKind :=
  if bit % 2 = 1 then var else smallConstant

end OperandKind

namespace Opcode

/-- The calls that take up to eight operands have two bytes of operand kinds. -/
def hasSecondKinds (opcode : Opcode) : Bool :=
  opcode.form = .var ∧ (opcode.byte = 0xec ∨ opcode.byte = 0xfa)

def ofByte (version : Version) (byte : UInt8) : Opcode :=
  if 0xc0 ≤ byte then
    { version, byte, number := byte % 32, form := .var
      arity := if 0xe0 ≤ byte then .any else .two }
  else if 0x80 ≤ byte then
    { version, byte, number := byte % 16, form := .short
      arity := if 0xb0 ≤ byte then .zero else .one }
  else
    { version, byte, number := byte % 32, form := .long, arity := .two }

def ofExtendedByte (version : Version) (byte : UInt8) : Opcode :=
  { version, byte, number := byte, form := .extended, arity := .any }

/-- The byte that announces an extended opcode, from version 5 on. -/
def extendedMark : UInt8 := 0xbe

end Opcode

namespace Instruction
open Scan

def scanOpcode (memory : Memory) (version : Version) : Scan Opcode := do
  let first ← nextByte memory
  if first = Opcode.extendedMark ∧ Version.v5 ≤ version then
    return Opcode.ofExtendedByte version (← nextByte memory)
  else
    return Opcode.ofByte version first

def scanKinds (memory : Memory) (opcode : Opcode) : Scan (List OperandKind) := do
  match opcode.form with
  | .short => return (OperandKind.ofBits? (opcode.byte.toNat / 16)).toList
  | .long =>
    return [OperandKind.ofBit (opcode.byte.toNat / 64), OperandKind.ofBit (opcode.byte.toNat / 32)]
  | .var | .extended =>
    let kinds := OperandKind.ofByte (← nextByte memory)
    if opcode.hasSecondKinds then
      let more := OperandKind.ofByte (← nextByte memory)
      return if kinds.length = 4 then kinds ++ more else kinds
    else
      return kinds

def scanOperand (memory : Memory) (kind : OperandKind) : Scan Operand := do
  match kind with
  | .largeConstant => return ⟨kind, ← nextWord memory⟩
  | .smallConstant | .var => return ⟨kind, (← nextByte memory).toUInt16⟩

def scanStore (memory : Memory) : Scan Store := do
  let address ← get
  return ⟨address, ← nextByte memory⟩

/-- Addresses are 64 bits wide: a target below zero wraps around. -/
def relativeAddress (next : Nat) (offset : Int) : Nat :=
  ((next + offset - 2) % 0x10000000000000000).toNat

/-- The offset in the low 14 bits of a branch, which are signed. -/
def longOffset (bits : Nat) : Int :=
  if bits % 0x4000 < 0x2000 then bits % 0x4000 else (bits % 0x4000 : Nat) - 0x4000

def scanOffset (memory : Memory) (first : UInt8) : Scan Int := do
  if first.toNat / 64 % 2 = 1 then
    return (first.toNat % 64 : Nat)
  else
    let second ← nextByte memory
    return longOffset (256 * first.toNat + second.toNat)

def scanBranch (memory : Memory) : Scan Branch := do
  let address ← get
  let first ← nextByte memory
  let offset ← scanOffset memory first
  let next ← get
  let target := if offset = 0 then 0 else if offset = 1 then 1 else relativeAddress next offset
  return ⟨address, 0x80 ≤ first, target⟩

def skipLiteral (memory : Memory) : Scan Unit := fun address => do
  let stop ← memory.textEnd address
  return ((), stop)

def scan (memory : Memory) (version : Version) : Scan Instruction := do
  let address ← get
  let opcode ← scanOpcode memory version
  let kinds ← scanKinds memory opcode
  let operands ← kinds.mapM (scanOperand memory)
  let store ← if opcode.stores then some <$> scanStore memory else pure none
  let branch ← if opcode.branches then some <$> scanBranch memory else pure none
  if opcode.hasLiteral then
    skipLiteral memory
  let next ← get
  return { address, opcode, operands, store, branch, next }

end Instruction

def Story.decodeInstruction (story : Story) (address : Nat) : Except Error Instruction := do
  let (instruction, _) ← Instruction.scan story.memory story.version address
  return instruction

end StoryMachine
