import StoryMachine.Semantics.Basic

/-! Operations on bytes and words in memory and on tables of them. -/

namespace StoryMachine

/-- The address of the first of `count` table entries that is `value`. Bit 7 of `form` says that
entries start with a word and not with a byte; the other bits are the entry size. -/
def Memory.scanTable (memory : Memory) (value : UInt16) (form : Nat) (address : Nat) :
    Nat → Except Error (Option Nat)
  | 0 => .ok none
  | count + 1 => do
    let entry ←
      if form / 128 % 2 = 1 then memory.readWord address
      else UInt8.toUInt16 <$> memory.readByte address
    if entry = value then
      return some address
    memory.scanTable value form (address + form % 128) count

namespace Update

/-- Copy bytes one after the other from the lowest address up. -/
def copyUp (source target : Nat) : Nat → Update Unit
  | 0 => pure ()
  | count + 1 => do
    let byte ← query (·.memory.readByte source)
    writeByte target byte
    copyUp (source + 1) (target + 1) count

/-- Copy bytes one after the other from the highest address down. -/
def copyDown (source target : Nat) : Nat → Update Unit
  | 0 => pure ()
  | count + 1 => do
    let byte ← query (·.memory.readByte (source + count))
    writeByte (target + count) byte
    copyDown source target count

/-- Copy a table, in the direction that overlap cannot hurt; a negative size asks to copy up in
any case. The target 0 clears the source instead. -/
def copyTable (source target : Nat) (size : Int) : Update Unit :=
  if target = 0 then writeBytes source (List.replicate size.natAbs 0)
  else if size < 0 ∨ target < source then copyUp source target size.natAbs
  else copyDown source target size.natAbs

end Update

namespace Engine

variable {η : Type}

def loadWord (instruction : Instruction) : Engine η Continuation := do
  let operands ← evaluate instruction 2
  let address := operands.first.toNat + operands.second.toNat * 2
  let value ← query (·.memory.readWord address)
  finishWith instruction value

def loadByte (instruction : Instruction) : Engine η Continuation := do
  let operands ← evaluate instruction 2
  let address := operands.first.toNat + operands.second.toNat
  let value ← query (·.memory.readByte address)
  finishWith instruction value.toUInt16

def storeWord (instruction : Instruction) : Engine η Continuation := do
  let operands ← evaluate instruction 3
  let address := operands.first.toNat + operands.second.toNat * 2
  update (Update.writeWord address operands.third)
  proceed instruction

def storeByte (instruction : Instruction) : Engine η Continuation := do
  let operands ← evaluate instruction 3
  let address := operands.first.toNat + operands.second.toNat
  update (Update.writeByte address (lowByte operands.third))
  proceed instruction

/-- Look for a value in a table, store where it is, and branch if it is there. Without a form
the table is one of words. -/
def scanTable (instruction : Instruction) : Engine η Continuation := do
  let operands ← evaluate instruction 3
  let form := (operands.get? 3).elim 0x82 UInt16.toNat
  let found ← query
    (·.memory.scanTable operands.first form operands.second.toNat operands.third.toNat)
  storeResult instruction (UInt16.ofNat (found.getD 0))
  branchOn instruction found.isSome

def copyTable (instruction : Instruction) : Engine η Continuation := do
  let operands ← evaluate instruction 3
  update (Update.copyTable operands.first.toNat operands.second.toNat operands.third.toInt16.toInt)
  proceed instruction

end Engine

end StoryMachine
