import StoryMachine.Semantics.Basic

/-! Arithmetic on 16-bit words, which wraps around, and random numbers. -/

namespace StoryMachine

/-- Signed division, rounding toward zero. -/
def signedDiv (dividend divisor : UInt16) : UInt16 :=
  (dividend.toInt16 / divisor.toInt16).toUInt16

/-- The remainder of signed division, with the sign of the dividend. -/
def signedMod (dividend divisor : UInt16) : UInt16 :=
  (dividend.toInt16 % divisor.toInt16).toUInt16

/-- Shift left by a number of places, or right if it is negative, filling with zeros. -/
def logicalShift (value : UInt16) (places : Int) : UInt16 :=
  if places < 0 then value >>> UInt16.ofNat places.natAbs
  else value <<< UInt16.ofNat places.toNat

/-- Shift left by a number of places, or right if it is negative, keeping the sign. -/
def arithmeticShift (value : UInt16) (places : Int) : UInt16 :=
  if places < 0 then (value.toInt16 >>> Int16.ofNat places.natAbs).toUInt16
  else value <<< UInt16.ofNat places.toNat

namespace Engine

variable {η : Type}

def unary (function : UInt16 → UInt16) (instruction : Instruction) : Engine η Continuation := do
  let operands ← evaluate instruction 1
  finishWith instruction (function operands.first)

def binary (function : UInt16 → UInt16 → UInt16) (instruction : Instruction) :
    Engine η Continuation := do
  let operands ← evaluate instruction 2
  finishWith instruction (function operands.first operands.second)

/-- A division, which fails with the given error if the divisor is 0. -/
def divide (byZero : Error) (function : UInt16 → UInt16 → UInt16) (instruction : Instruction) :
    Engine η Continuation := do
  let operands ← evaluate instruction 2
  if operands.second = 0 then
    throw byZero
  finishWith instruction (function operands.first operands.second)

/-- A shift, by at most 15 places either way. -/
def shift (function : UInt16 → Int → UInt16) (instruction : Instruction) :
    Engine η Continuation := do
  let operands ← evaluate instruction 2
  let places := operands.second.toInt16.toInt
  if places < -15 ∨ 15 < places then
    throw (.shiftOutOfRange places)
  finishWith instruction (function operands.first places)

/-- A random number from 1 to a positive range. A range of 0 seeds the generator anew, and a
negative one seeds it with its size; a small size counts instead. -/
def random [RandomSource η] (range : Int16) : Engine η UInt16 := fun machine =>
  let generator : Generator η := ⟨machine.randomMode, machine.host⟩
  let keep (value : UInt16) (generator : Generator η) : EStateM.Result Error (Machine η) UInt16 :=
    .ok value { machine with randomMode := generator.mode, host := generator.source }
  if 0 < range then
    let (value, generator) := generator.below range.toUInt16
    keep (value + 1) generator
  else
    let size := UInt16.ofNat range.toInt.natAbs
    keep 0 (generator.seed size (0 < size ∧ size < 1000))

def randomNumber [RandomSource η] (instruction : Instruction) : Engine η Continuation := do
  let operands ← evaluate instruction 1
  let value ← random operands.first.toInt16
  finishWith instruction value

end Engine

end StoryMachine
