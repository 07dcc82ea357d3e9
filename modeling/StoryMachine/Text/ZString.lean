import StoryMachine.Story

/-! Encoded text: five-bit z-characters, three to a word, the last word marked by its top bit. -/

namespace StoryMachine

/-- A five-bit unit of encoded text. -/
abbrev ZChar := Fin 32

instance ZChar.neZero : @NeZero Nat Zero.ofOfNat0 32 := Nat.instNeZeroSucc

namespace ZString

/-- The top bit marks the last word of a text. -/
def isLast (value : UInt16) : Bool :=
  0x8000 ≤ value

def unpackWord (value : UInt16) : List ZChar :=
  [Fin.ofNat 32 (value.toNat / 1024), Fin.ofNat 32 (value.toNat / 32), Fin.ofNat 32 value.toNat]

def unpack (words : List UInt16) : List ZChar :=
  words.flatMap unpackWord

def packWord (first second third : ZChar) : UInt16 :=
  UInt16.ofNat (1024 * first.val + 32 * second.val + third.val)

/-- Pack z-characters three to a word, marking the last word. What is left over is dropped. -/
def pack : List ZChar → List UInt16
  | first :: second :: third :: rest =>
    match pack rest with
    | [] => [packWord first second third + 0x8000]
    | words => packWord first second third :: words
  | _ => []

def padding : ZChar := 5

/-- The first `length` z-characters, filled up with padding. -/
def fit (length : Nat) (zchars : List ZChar) : List ZChar :=
  zchars.take length ++ List.replicate (length - zchars.length) padding

end ZString

namespace Memory

def textEnd (memory : Memory) (address : Nat) : Except Error Nat :=
  if address + 1 < memory.size then
    if ZString.isLast (memory.wordAt address) then .ok (address + 2)
    else memory.textEnd (address + 2)
  else
    .error (.wordBeyondMemory address (memory.size - 1))
termination_by memory.size - address

def textWords (memory : Memory) (address : Nat) : Except Error (List UInt16) := do
  let stop ← memory.textEnd address
  return (List.range' address ((stop - address) / 2) 2).map memory.wordAt

end Memory

end StoryMachine
