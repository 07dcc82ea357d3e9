import StoryMachine.Object.Tree

/-! Attributes: the bits at the start of an object's entry, the first in the top bit of the
first byte. -/

namespace StoryMachine

def attributeMask (number : Nat) : UInt8 :=
  0x80 >>> UInt8.ofNat (number % 8)

namespace Story

def attributeAddress (story : Story) (access : AttributeAccess) (object number : Nat) :
    Except Error Nat := do
  let address ← story.objectAddress object
  if story.version.attributeCount ≤ number then
    throw (.invalidAttribute access number object)
  return address + number / 8

def hasAttribute (story : Story) (object number : Nat) : Except Error Bool := do
  let address ← story.attributeAddress .test object number
  let byte ← story.memory.readByte address
  return byte &&& attributeMask number = attributeMask number

end Story

namespace Update

def setAttribute (object number : Nat) : Update Unit := do
  let address ← query (·.attributeAddress .set object number)
  let byte ← query (·.memory.readByte address)
  writeByte address (byte ||| attributeMask number)

def clearAttribute (object number : Nat) : Update Unit := do
  let address ← query (·.attributeAddress .clear object number)
  let byte ← query (·.memory.readByte address)
  writeByte address (byte &&& ~~~attributeMask number)

end Update

end StoryMachine
