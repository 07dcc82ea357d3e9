import StoryMachine.Machine.Output
import StoryMachine.Semantics.Basic

/-! Operations on windows, the cursor, colours, pictures, sounds, the mouse and menus, and on
streams. Most of them check their operands and tell the presentation. -/

namespace StoryMachine

def currentWindow : Int16 := -3

/-- A window number, from the current window to 7. -/
def checkWindow (value : UInt16) : Except Error Int16 :=
  let window := value.toInt16
  if -3 ≤ window.toInt ∧ window.toInt ≤ 7 then .ok window
  else .error (.invalidWindow window.toInt)

/-- A colour number: -1 is the one under the cursor, 0 the current one and 1 the default. -/
def checkColour (value : UInt16) : Except Error Int16 :=
  let colour := value.toInt16
  if -1 ≤ colour.toInt ∧ colour.toInt ≤ 15 then .ok colour
  else .error (.invalidColour colour.toInt)

def checkWindowProperty (value : UInt16) : Except Error UInt16 :=
  if 17 < value then .error (.invalidWindowProperty value.toNat) else .ok value

namespace Memory

def zeroWordFrom (memory : Memory) (address : Nat) : Except Error Nat :=
  if address + 1 < memory.size then
    if memory.wordAt address = 0 then .ok address else memory.zeroWordFrom (address + 2)
  else
    .error (.wordBeyondMemory address (memory.size - 1))
termination_by memory.size - address

def wordsUntilZero (memory : Memory) (address : Nat) : Except Error (List UInt16) := do
  let stop ← memory.zeroWordFrom address
  return (List.range' address ((stop - address) / 2) 2).map memory.wordAt

/-- A text with its length in the byte before it. -/
def countedText (memory : Memory) (address : Nat) : Except Error (List Zscii) := do
  let length ← memory.readByte address
  let characters ← memory.readBytes (address + 1) length.toNat
  return characters.map UInt8.toUInt16

/-- The items of a menu: a count, and then the addresses of the items. -/
def menuItems (memory : Memory) (table : Nat) : Except Error (List (List Zscii)) := do
  let count ← memory.readWord table
  (List.range' (table + 2) count.toNat 2).mapM fun place => do
    let address ← memory.readWord place
    memory.countedText address.toNat

end Memory

namespace Engine

variable {η : Type}

def check (result : Except Error α) : Engine η α :=
  query fun _ => result

/-- The window that an operand gives; the current one if it is left out. -/
def windowOperand (operands : Operands) (index : Nat) : Engine η Int16 :=
  match operands.get? index with
  | some value => check (checkWindow value)
  | none => pure currentWindow

/-- The window that an operand gives in version 6; before, all is done in the current one. -/
def windowOperandV6 (operands : Operands) (index : Nat) : Engine η Int16 := do
  if (← version) = .v6 then windowOperand operands index else return currentWindow

variable [Presentation η]

def notifyOperand (notice : UInt16 → Notice) (instruction : Instruction) :
    Engine η Continuation := do
  let operands ← evaluate instruction 1
  notify (notice operands.first)
  proceed instruction

def notifyWindow (notice : Int16 → Notice) (instruction : Instruction) :
    Engine η Continuation := do
  let operands ← evaluate instruction 1
  let window ← check (checkWindow operands.first)
  notify (notice window)
  proceed instruction

def setCursor (instruction : Instruction) : Engine η Continuation := do
  let operands ← evaluate instruction 2
  let window ← windowOperandV6 operands 2
  notify (.setCursor operands.first.toInt16 operands.second window)
  proceed instruction

def getCursor (instruction : Instruction) : Engine η Continuation := do
  let operands ← evaluate instruction 1
  let (row, column) ← ask Presentation.cursor
  update (Update.writeWords operands.first.toNat [row, column])
  proceed instruction

def setColour (instruction : Instruction) : Engine η Continuation := do
  let operands ← evaluate instruction 2
  let foreground ← check (checkColour operands.first)
  let background ← check (checkColour operands.second)
  let window ← windowOperandV6 operands 2
  notify (.setColour foreground background window)
  proceed instruction

def setTrueColour (instruction : Instruction) : Engine η Continuation := do
  let operands ← evaluate instruction 2
  let window ← windowOperandV6 operands 2
  notify (.setTrueColour operands.first.toInt16 operands.second.toInt16 window)
  proceed instruction

def setFont (instruction : Instruction) : Engine η Continuation := do
  let operands ← evaluate instruction 1
  let previous ← ask (Presentation.setFont operands.first)
  finishWith instruction previous

def selectOutput (instruction : Instruction) : Engine η Continuation := do
  let operands ← evaluate instruction 1
  selectStream operands.first.toInt16 ((operands.get? 1).map UInt16.toNat)
  proceed instruction

/-- Where input comes from is for the host to decide: the operand is evaluated and dropped. -/
def selectInput (instruction : Instruction) : Engine η Continuation := do
  let _ ← evaluate instruction 1
  proceed instruction

/-- Numbers below 3 are beeps, and so is no number at all. -/
def soundEffect (instruction : Instruction) : Engine η Continuation := do
  let operands ← evaluate instruction 0
  let number := (operands.get? 0).getD 1
  if number < 3 then
    notify (.beep number)
  else
    let effect := (operands.get? 1).getD 2
    if effect < 1 ∨ 4 < effect then
      throw (.invalidSoundAction effect.toNat)
    let volume := (operands.get? 2).getD 0xff
    let format := (← get).story.format
    let routine := if format.version < .v5 then 0
      else (operands.get? 3).elim 0 format.routineAddress
    notify (.soundEffect number effect volume routine)
  proceed instruction

/-- Tell the presentation about a picture and a place, which is the cursor if left out. -/
def notifyPicture (notice : (picture row column : UInt16) → Notice) (instruction : Instruction) :
    Engine η Continuation := do
  let operands ← evaluate instruction 1
  notify (notice operands.first ((operands.get? 1).getD 0) ((operands.get? 2).getD 0))
  proceed instruction

/-- Store the height and the width of a picture in a table, and branch if there is one. -/
def pictureData (instruction : Instruction) : Engine η Continuation := do
  let operands ← evaluate instruction 2
  match ← ask (Presentation.pictureData operands.first) with
  | some (height, width) =>
    update (Update.writeWords operands.second.toNat [height, width])
    branchOn instruction true
  | none => branchOn instruction false

def pictureTable (instruction : Instruction) : Engine η Continuation := do
  let operands ← evaluate instruction 1
  let pictures ← query (·.memory.wordsUntilZero operands.first.toNat)
  notify (.pictureTable pictures)
  proceed instruction

def setMargins (instruction : Instruction) : Engine η Continuation := do
  let operands ← evaluate instruction 2
  let window ← windowOperand operands 2
  notify (.setMargins operands.first operands.second window)
  proceed instruction

def moveWindow (instruction : Instruction) : Engine η Continuation := do
  let operands ← evaluate instruction 3
  let window ← check (checkWindow operands.first)
  notify (.moveWindow window operands.second operands.third)
  proceed instruction

def windowSize (instruction : Instruction) : Engine η Continuation := do
  let operands ← evaluate instruction 3
  let window ← check (checkWindow operands.first)
  let height := operands.second.toInt16.toInt
  let width := operands.third.toInt16.toInt
  if height < 0 ∨ width < 0 then
    throw (.invalidWindowSize height width)
  notify (.windowSize window operands.second operands.third)
  proceed instruction

def windowStyle (instruction : Instruction) : Engine η Continuation := do
  let operands ← evaluate instruction 2
  let window ← check (checkWindow operands.first)
  let operation := (operands.get? 2).getD 0
  if 3 < operation then
    throw (.invalidWindowStyle operation.toNat)
  notify (.windowStyle window operands.second operation)
  proceed instruction

def getWindowProperty (instruction : Instruction) : Engine η Continuation := do
  let operands ← evaluate instruction 2
  let window ← check (checkWindow operands.first)
  let property ← check (checkWindowProperty operands.second)
  let value ← ask (Presentation.windowProperty window property)
  finishWith instruction value

def putWindowProperty (instruction : Instruction) : Engine η Continuation := do
  let operands ← evaluate instruction 3
  let window ← check (checkWindow operands.first)
  let property ← check (checkWindowProperty operands.second)
  notify (.putWindowProperty window property operands.third)
  proceed instruction

def scrollWindow (instruction : Instruction) : Engine η Continuation := do
  let operands ← evaluate instruction 2
  let window ← check (checkWindow operands.first)
  notify (.scrollWindow window operands.second.toInt16)
  proceed instruction

def readMouse (instruction : Instruction) : Engine η Continuation := do
  let operands ← evaluate instruction 1
  let mouse ← ask Presentation.readMouse
  update (Update.writeWords operands.first.toNat
    [mouse.row, mouse.column, mouse.buttons, mouse.menu])
  proceed instruction

/-- Put up a menu and branch if that worked. The first three menus are the host's own. -/
def makeMenu (instruction : Instruction) : Engine η Continuation := do
  let operands ← evaluate instruction 2
  let menu := operands.first
  if menu < 3 then
    throw (.reservedMenu menu.toNat)
  let table := operands.second.toNat
  let items ← if table = 0 then pure [] else query (·.memory.menuItems table)
  let made ← ask (Presentation.makeMenu menu items)
  branchOn instruction made

/-- The screen is never buffered. -/
def bufferScreen (instruction : Instruction) : Engine η Continuation := do
  let _ ← evaluate instruction 1
  finishWith instruction 0

end Engine

end StoryMachine
