import StoryMachine.Semantics.Basic
import StoryMachine.Object.Attribute
import StoryMachine.Object.Property

/-! Operations on objects, their attributes and their properties. -/

namespace StoryMachine.Engine

variable {η : Type}

def storeLink (link : Link) (instruction : Instruction) : Engine η Continuation := do
  let operands ← evaluate instruction 1
  let object ← query (·.link link operands.first.toNat)
  finishWith instruction (UInt16.ofNat object)

def storeLinkAndBranch (link : Link) (instruction : Instruction) : Engine η Continuation := do
  let operands ← evaluate instruction 1
  let object ← query (·.link link operands.first.toNat)
  storeResult instruction (UInt16.ofNat object)
  branchOn instruction (object ≠ 0)

/-- Branch if the second operand is the parent of the first. -/
def branchInside (instruction : Instruction) : Engine η Continuation := do
  let operands ← evaluate instruction 2
  let parent ← query (·.parent operands.first.toNat)
  branchOn instruction (parent = operands.second.toNat)

def insertObject (instruction : Instruction) : Engine η Continuation := do
  let operands ← evaluate instruction 2
  update (Update.insertObject operands.first.toNat operands.second.toNat)
  proceed instruction

def removeObject (instruction : Instruction) : Engine η Continuation := do
  let operands ← evaluate instruction 1
  update (Update.removeObject operands.first.toNat)
  proceed instruction

def testAttribute (instruction : Instruction) : Engine η Continuation := do
  let operands ← evaluate instruction 2
  let isSet ← query (·.hasAttribute operands.first.toNat (byteOperand operands.second))
  branchOn instruction isSet

def changeAttribute (change : Nat → Nat → Update Unit) (instruction : Instruction) :
    Engine η Continuation := do
  let operands ← evaluate instruction 2
  update (change operands.first.toNat (byteOperand operands.second))
  proceed instruction

def storeProperty (read : Story → (object number : Nat) → Except Error UInt16)
    (instruction : Instruction) : Engine η Continuation := do
  let operands ← evaluate instruction 2
  let value ← query (read · operands.first.toNat (byteOperand operands.second))
  finishWith instruction value

def propertyLength (instruction : Instruction) : Engine η Continuation := do
  let operands ← evaluate instruction 1
  let length ← query (·.propertyLength operands.first.toNat)
  finishWith instruction (UInt16.ofNat length)

def setProperty (instruction : Instruction) : Engine η Continuation := do
  let operands ← evaluate instruction 3
  update (Update.setProperty operands.first.toNat (byteOperand operands.second) operands.third)
  proceed instruction

end StoryMachine.Engine
