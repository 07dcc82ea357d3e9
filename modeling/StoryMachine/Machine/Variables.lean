import StoryMachine.Machine.Basic

/-! Variables: 0 is the evaluation stack and 1 to 15 are locals, both in the innermost frame;
the rest are globals, words of a table in memory. -/

namespace StoryMachine

def firstGlobal : Nat := 16

def Story.globalAddress (story : Story) (number : Nat) : Nat :=
  (story.memory.headerWord .globalTable).toNat + (number - firstGlobal) * 2

def Story.global (story : Story) (number : Nat) : Except Error UInt16 :=
  story.memory.readWord (story.globalAddress number)

def Update.setGlobal (number : Nat) (value : UInt16) : Update Unit := do
  let address := (← get).globalAddress number
  writeWord address value

namespace Engine

variable {η : Type}

def readVariable (number : Nat) : Engine η UInt16 :=
  if number < firstGlobal then updateTop (·.read number) else query (·.global number)

def peekVariable (number : Nat) : Engine η UInt16 :=
  if number < firstGlobal then
    queryStack fun stack => do (← stack.top).peekVariable number
  else query (·.global number)

def writeVariable (number : Nat) (value : UInt16) : Engine η Unit :=
  if number < firstGlobal then
    updateTop fun frame => return ((), ← frame.write number value)
  else update (Update.setGlobal number value)

def replaceVariable (number : Nat) (value : UInt16) : Engine η Unit :=
  if number < firstGlobal then
    updateTop fun frame => return ((), ← frame.replace number value)
  else update (Update.setGlobal number value)

def push (value : UInt16) : Engine η Unit :=
  updateTop fun frame => .ok ((), frame.push value)

end Engine

end StoryMachine
