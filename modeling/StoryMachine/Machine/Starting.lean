import StoryMachine.Machine.Routines
import StoryMachine.Machine.Saving

/-! Starting a story: telling it about the interpreter in its header, and setting up the first
frame. -/

namespace StoryMachine

namespace Memory

/-- Fill in the header fields that belong to the interpreter. -/
def describeInterpreter (memory : Memory) (version : Version) (config : Config) : Memory :=
  let memory :=
    if version < .v4 then
      ((memory.clearFlag1 EarlyFlag.statusLineNotAvailable).setFlag1
        EarlyFlag.screenSplitAvailable).clearFlag1 EarlyFlag.variablePitchDefault
    else
      (memory.setHeaderByte .screenLines config.screenRows).setHeaderByte .screenColumns
        config.screenColumns
  let memory :=
    if version < .v5 then memory
    else
      let available := [ScreenFlag.colours, ScreenFlag.boldface, ScreenFlag.italic,
        ScreenFlag.fixedSpace, ScreenFlag.timedInput].foldl setFlag1 memory
      let pictures :=
        if version = .v6 then available.setFlag1 ScreenFlag.pictures
        else available.clearFlag1 ScreenFlag.pictures
      (((pictures.setHeaderWord .screenWidth config.screenColumns.toUInt16).setHeaderWord
        .screenHeight config.screenRows.toUInt16).setHeaderByte .fontWidth 1).setHeaderByte
        .fontHeight 1
  ((memory.setHeaderByte .interpreterNumber config.interpreterNumber).setHeaderByte
    .interpreterVersion config.interpreterVersion).setHeaderWord .revision 0x0101

end Memory

namespace Engine

variable {η : Type}

/-- Fill in the header and set up the first frame. Version 6 starts by calling a routine; the
other versions start at an instruction. -/
def start : Engine η Unit := do
  modify fun machine =>
    let memory := machine.story.memory.describeInterpreter machine.version machine.config
    { machine with story := { machine.story with memory }, stack := {} }
  let machine ← get
  let initial := machine.story.memory.headerWord .initialPC
  if machine.version = .v6 then
    let _ ← call (machine.story.format.routineAddress initial) [] .procedure 0
  else
    let pc := initial.toNat
    set { machine with
      stack := machine.stack.push
        { kind := .procedure, address := pc, pc, locals := [], argumentCount := 0,
          returnAddress := 0 } }
  let top ← queryStack (·.top)
  modify fun machine =>
    { machine with initial := some (machine.capture top.pc), status := .running }

end Engine

end StoryMachine
