import StoryMachine.Instruction.Decoding
import StoryMachine.Proofs.StoredBytes

/-! How instructions are laid out in memory, said from the writer's side: the bytes of each part in
turn. An instruction of a version has only the parts that its opcode has in that version. -/

namespace StoryMachine

inductive Argument where
  | large (value : UInt16)
  | small (value : UInt8)
  | var (number : UInt8)
  deriving DecidableEq

namespace Argument

def kind : Argument → OperandKind
  | large _ => .largeConstant
  | small _ => .smallConstant
  | var _ => .var

def bytes : Argument → List UInt8
  | large value => [highByte value, lowByte value]
  | small value => [value]
  | var number => [number]

def operand : Argument → Operand
  | large value => ⟨.largeConstant, value⟩
  | small value => ⟨.smallConstant, value.toUInt16⟩
  | var number => ⟨.var, number.toUInt16⟩

/-- The two bits that announce a kind; 3 announces no operand. -/
def kindBits : Option Argument → Nat
  | some (large _) => 0
  | some (small _) => 1
  | some (var _) => 2
  | none => 3

/-- The byte that announces up to four operands, the first in its top bits. -/
def kindByte (arguments : List Argument) : UInt8 :=
  UInt8.ofNat (64 * kindBits arguments[0]? + 16 * kindBits arguments[1]? +
    4 * kindBits arguments[2]? + kindBits arguments[3]?)

end Argument

/-- An opcode number and operands that its form can carry. Long opcodes have no room for the kind of
a large operand. -/
inductive Head where
  | zero (number : Fin 16)
  | one (number : Fin 16) (argument : Argument)
  | long (number : Fin 32) (first second : UInt8 ⊕ UInt8)
  | two (number : Fin 32) (arguments : List Argument)
  | any (number : Fin 32) (arguments : List Argument)
  | extended (number : UInt8) (arguments : List Argument)
  deriving DecidableEq

namespace Head

def shortArgument : UInt8 ⊕ UInt8 → Argument
  | .inl value => .small value
  | .inr number => .var number

def arguments : Head → List Argument
  | zero _ => []
  | one _ argument => [argument]
  | long _ first second => [shortArgument first, shortArgument second]
  | two _ arguments | any _ arguments | extended _ arguments => arguments

/-- The calls with up to eight operands: `0xec` and `0xfa`. -/
def isWide : Head → Bool
  | any number _ => number = 0x0c ∨ number = 0x1a
  | _ => false

def shortByte (bits : Nat) (number : Fin 16) : UInt8 :=
  UInt8.ofNat (0x80 + 16 * bits + number.val)

def longByte (first second : Bool) (number : Fin 32) : UInt8 :=
  UInt8.ofNat ((if first then 0x40 else 0) + (if second then 0x20 else 0) + number.val)

def varByte (any : Bool) (number : Fin 32) : UInt8 :=
  UInt8.ofNat ((if any then 0xe0 else 0xc0) + number.val)

def opcodeByte : Head → UInt8
  | zero number => shortByte 3 number
  | one number argument => shortByte (Argument.kindBits (some argument)) number
  | long number first second => longByte first.isRight second.isRight number
  | two number _ => varByte false number
  | any number _ => varByte true number
  | extended number _ => number

def opcodeBytes (head : Head) : List UInt8 :=
  match head with
  | extended number _ => [0xbe, number]
  | _ => [head.opcodeByte]

def kindBytes (head : Head) : List UInt8 :=
  match head with
  | zero _ | one _ _ | long _ _ _ => []
  | two _ arguments | any _ arguments | extended _ arguments =>
    if head.isWide then
      [Argument.kindByte (arguments.take 4), Argument.kindByte (arguments.drop 4)]
    else [Argument.kindByte arguments]

def opcode (version : Version) (head : Head) : Opcode :=
  match head with
  | zero number => ⟨version, head.opcodeByte, UInt8.ofNat number, .short, .zero⟩
  | one number _ => ⟨version, head.opcodeByte, UInt8.ofNat number, .short, .one⟩
  | long number _ _ => ⟨version, head.opcodeByte, UInt8.ofNat number, .long, .two⟩
  | two number _ => ⟨version, head.opcodeByte, UInt8.ofNat number, .var, .two⟩
  | any number _ => ⟨version, head.opcodeByte, UInt8.ofNat number, .var, .any⟩
  | extended number _ => ⟨version, number, number, .extended, .any⟩

/-- Can the version write this opcode? From version 5 on the byte `0xbe` announces an extended one,
so it is no opcode of its own. -/
def Fits (version : Version) : Head → Prop
  | zero number => number = 0x0e → version < .v5
  | one _ _ | long _ _ _ => True
  | two _ arguments => arguments.length ≤ 4
  | any number arguments => arguments.length ≤ if number = 0x0c ∨ number = 0x1a then 8 else 4
  | extended _ arguments => .v5 ≤ version ∧ arguments.length ≤ 4

def Stores (version : Version) : Head → Prop
  | zero number => ((number = 0x05 ∨ number = 0x06) ∧ version = .v4) ∨
      (number = 0x09 ∧ .v5 ≤ version)
  | one number _ => (0x01 ≤ number ∧ number ≤ 0x04) ∨ number = 0x08 ∨ number = 0x0e ∨
      (number = 0x0f ∧ version < .v5)
  | long number _ _ | two number _ =>
    number = 0x08 ∨ number = 0x09 ∨ (0x0f ≤ number ∧ number ≤ 0x19)
  | any number _ => number = 0x00 ∨ number = 0x07 ∨ number = 0x0c ∨
      (0x16 ≤ number ∧ number ≤ 0x18) ∨ (number = 0x04 ∧ .v5 ≤ version) ∨
      (number = 0x09 ∧ version = .v6)
  | extended number _ => number ≤ 0x04 ∨ number = 0x09 ∨ number = 0x0a ∨ number = 0x0c ∨
      number = 0x13 ∨ number = 0x1d

def Branches (version : Version) : Head → Prop
  | zero number => number = 0x0d ∨ number = 0x0f ∨
      ((number = 0x05 ∨ number = 0x06) ∧ version < .v4)
  | one number _ => number ≤ 0x02
  | long number _ _ | two number _ => (0x01 ≤ number ∧ number ≤ 0x07) ∨ number = 0x0a
  | any number _ => number = 0x17 ∨ number = 0x1f
  | extended number _ => number = 0x06 ∨ number = 0x18 ∨ number = 0x1b

def Prints : Head → Prop
  | zero number => number = 0x02 ∨ number = 0x03
  | _ => False

end Head

/-- Where to go, as it is written: six bits without a sign, or fourteen with one. -/
inductive Offset where
  | short (value : Fin 64)
  | long (value : BitVec 14)
  deriving DecidableEq

namespace Offset

def toInt : Offset → Int
  | short value => value.val
  | long value => value.toInt

def bytes (condition : Bool) : Offset → List UInt8
  | short value => [UInt8.ofNat ((if condition then 0x80 else 0) + 0x40 + value.val)]
  | long value => [UInt8.ofNat ((if condition then 0x80 else 0) + value.toNat / 256),
      UInt8.ofNat value.toNat]

/-- The address to go to from an instruction with this next address. The offsets 0 and 1 return
instead, and addresses have 64 bits. -/
def target (offset : Offset) (next : Nat) : Nat :=
  if offset.toInt = 0 then 0
  else if offset.toInt = 1 then 1
  else ((next + offset.toInt - 2) % 18446744073709551616).toNat

end Offset

structure Layout (version : Version) where
  head : Head
  store : Option UInt8
  branch : Option (Bool × Offset)
  literal : Option (List UInt16)
  fits : head.Fits version
  stores : store.isSome ↔ head.Stores version
  branches : branch.isSome ↔ head.Branches version
  prints : literal.isSome ↔ head.Prints
  terminated : ∀ words ∈ literal, ZString.Terminated words

namespace Layout

variable {version : Version} (layout : Layout version)

def headBytes : List UInt8 :=
  layout.head.opcodeBytes ++ layout.head.kindBytes ++ layout.head.arguments.flatMap Argument.bytes

def storeBytes : List UInt8 :=
  layout.store.elim [] fun target => [target]

def branchBytes : List UInt8 :=
  layout.branch.elim [] fun branch => branch.2.bytes branch.1

def literalBytes : List UInt8 :=
  layout.literal.elim [] wordBytes

def bytes : List UInt8 :=
  layout.headBytes ++ layout.storeBytes ++ layout.branchBytes ++ layout.literalBytes

def instruction (address : Nat) : Instruction where
  address := address
  opcode := layout.head.opcode version
  operands := layout.head.arguments.map Argument.operand
  store := layout.store.map fun target => ⟨address + layout.headBytes.length, target⟩
  branch := layout.branch.map fun branch =>
    { address := address + layout.headBytes.length + layout.storeBytes.length
      condition := branch.1
      target := branch.2.target (address + layout.bytes.length) }
  next := address + layout.bytes.length

def wideCall : Layout .v5 where
  head := .any 0x0c [.large 0x1234, .small 5, .var 0, .large 0xffff, .var 16]
  store := some 0x11
  branch := none
  literal := none
  fits := by simp [Head.Fits]
  stores := by simp [Head.Stores]
  branches := by simp [Head.Branches]
  prints := by simp [Head.Prints]
  terminated := nofun

def branchBack : Layout .v5 where
  head := .long 0x01 (.inr 1) (.inr 2)
  store := none
  branch := some (false, .long (-4))
  literal := none
  fits := trivial
  stores := by simp [Head.Stores]
  branches := by simp [Head.Branches]
  prints := by simp [Head.Prints]
  terminated := nofun

def printTwo : Layout .v5 where
  head := .zero 0x02
  store := none
  branch := none
  literal := some [0x1234, 0x9234]
  fits := by simp [Head.Fits]
  stores := by simp [Head.Stores]
  branches := by simp [Head.Branches]
  prints := by simp [Head.Prints]
  terminated := by
    intro words given
    cases given
    refine ⟨[0x1234], 0x9234, rfl, rfl, ?_⟩
    simp only [List.mem_singleton, forall_eq]
    rfl

end Layout

end StoryMachine
