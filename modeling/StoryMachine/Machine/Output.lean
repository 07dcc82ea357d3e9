import StoryMachine.Machine.Variables
import StoryMachine.Object.Property

/-! Output: the screen, the transcript, the command script, and text kept for tables in memory.
While text is kept for a table it goes nowhere else. -/

namespace StoryMachine

/-- How text is kept for a table: zeros are dropped, and line feeds are new lines. -/
def captured (text : List Zscii) : List Zscii :=
  (text.filter (· ≠ 0)).map fun code => if code = 10 then Zscii.newLine else code

def maxCaptures : Nat := 16

namespace Update

/-- Put the text kept for a table into memory, after its length. -/
def writeCapture (capture : Capture) : Update Unit := do
  writeWord capture.table (UInt16.ofNat capture.text.length)
  writeBytes (capture.table + 2) (capture.text.map lowByte)

end Update

namespace Engine

variable {η : Type} [Presentation η]

/-- Put text on the screen with `shown`, and in the transcript, unless it is kept for a table. -/
def emit (shown : Notice) (text : List Zscii) : Engine η Unit := do
  let machine ← get
  match machine.captures with
  | capture :: outer =>
    let capture := { capture with text := capture.text ++ captured text }
    set { machine with captures := capture :: outer }
  | [] =>
    if machine.screen then
      notify shown
    if machine.story.memory.hasFlag2 GameFlag.transcripting then
      notify (.transcript text)

def print (text : List Zscii) : Engine η Unit :=
  emit (.print text) text

def newLine : Engine η Unit :=
  emit .newLine [Zscii.newLine]

def openCapture (table : Option Nat) : Engine η Unit := do
  match table with
  | none => throw .streamWithoutTable
  | some table =>
    if maxCaptures ≤ (← get).captures.length then
      throw (.streamTooDeep maxCaptures)
    modify fun machine => { machine with captures := { table } :: machine.captures }

/-- Stop keeping text for the innermost table and write it there. -/
def closeCapture : Engine η Unit := do
  let machine ← get
  match machine.captures with
  | [] => return
  | capture :: outer =>
    set { machine with captures := outer }
    update (Update.writeCapture capture)

/-- Select an output stream, or deselect it if the number is negative: 1 is the screen, 2 the
transcript, 3 a table in memory and 4 the command script. -/
def selectStream (stream : Int16) (table : Option Nat) : Engine η Unit := do
  match stream.toInt with
  | 1 => modify fun machine => { machine with screen := true }
  | -1 => modify fun machine => { machine with screen := false }
  | 2 => update (Update.modifyMemory fun memory => .ok (memory.setFlag2 GameFlag.transcripting))
  | -2 => update (Update.modifyMemory fun memory => .ok (memory.clearFlag2 GameFlag.transcripting))
  | 3 => openCapture table
  | -3 => closeCapture
  | 4 => modify fun machine => { machine with commandScript := true }
  | -4 => modify fun machine => { machine with commandScript := false }
  | other => throw (.invalidStream other)
  notify (.outputStream stream)

def renderScore (score turns : UInt16) : String :=
  let score := max (-99) (min 999 score.toInt16.toInt)
  s!"{score}/{min turns.toNat 9999}"

def renderTime (hour minute : UInt16) : String :=
  let hour := min hour.toNat 23
  let minute := min minute.toNat 59
  let half := if 11 < hour then "PM" else "AM"
  let shown := if hour = 0 then 12 else if 12 < hour then hour - 12 else hour
  Numeral.decimal ' ' 2 shown ++ ":" ++ Numeral.decimal '0' 2 minute ++ " " ++ half

/-- Show the status line: the name of the object in the first global variable, and a score or a
time from the next two. -/
def showStatus : Engine η Unit := do
  let object := (← peekVariable firstGlobal).toNat
  let left ←
    if object = 0 then pure []
    else do
      let name ← query (·.shortName object)
      decodeWords name
  let first ← peekVariable (firstGlobal + 1)
  let second ← peekVariable (firstGlobal + 2)
  let isTime := (← get).story.memory.hasFlag1 EarlyFlag.statusLineType
  let right := if isTime then renderTime first second else renderScore first second
  notify (.showStatus left (Zscii.ofString right))

end Engine

end StoryMachine
