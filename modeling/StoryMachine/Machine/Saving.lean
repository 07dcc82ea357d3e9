import StoryMachine.Machine.Basic

/-! Snapshots of a machine: taking them, going back to them, and restarting. -/

namespace StoryMachine

def Memory.storyId (memory : Memory) : StoryId where
  release := memory.headerWord .release
  serial := (memory.slice HeaderField.serial.address 6).toList
  checksum := memory.headerWord .checksum

/-- The bits of the second flag word that belong to the player and not to the saved game. -/
def playerFlags : UInt16 :=
  GameFlag.transcripting ||| GameFlag.forceFixedPitch

namespace Machine

variable {η : Type}

def capture (machine : Machine η) (address : Nat) : Snapshot where
  image := machine.story.memory.bytes
  stack := machine.stack
  story := machine.story.memory.storyId
  address

/-- Go back to a snapshot of the same story and size. The player's flags stay as they are. -/
def restore? (machine : Machine η) (snapshot : Snapshot) : Option (Machine η) :=
  let memory := machine.story.memory
  if snapshot.story = memory.storyId then
    match memory.replace snapshot.image with
    | .error _ => none
    | .ok restored =>
      let flags := (restored.headerWord .flags2 &&& ~~~playerFlags) |||
        (memory.headerWord .flags2 &&& playerFlags)
      some { machine with
        story := { machine.story with memory := restored.setHeaderWord .flags2 flags }
        stack := snapshot.stack
        captures := []
        pending := none }
  else none

end Machine

namespace Engine

variable {η : Type}

/-- Go back to a snapshot, and tell whether that worked. -/
def restoreSnapshot (snapshot : Snapshot) : Engine η Bool := do
  match (← get).restore? snapshot with
  | some machine =>
    set machine
    return true
  | none => return false

/-- Give a snapshot to the store, and tell whether it took it. -/
def saveGame [SaveStore η] (address : Nat) : Engine η Bool := do
  let snapshot := (← get).capture address
  ask (SaveStore.save snapshot)

/-- Go back to the snapshot in the store; the answer is where it was taken. -/
def restoreGame [SaveStore η] : Engine η (Option Nat) := do
  match ← ask SaveStore.restore with
  | none => return none
  | some snapshot => return if ← restoreSnapshot snapshot then some snapshot.address else none

def saveUndo (address : Nat) : Engine η Unit :=
  modify fun machine => { machine with undo := machine.undo.push (machine.capture address) }

/-- Go back to the latest snapshot for undo, which is used up; the answer is where it was
taken. -/
def restoreUndo : Engine η (Option Nat) := do
  let machine ← get
  match machine.undo.pop? with
  | none => return none
  | some (snapshot, undo) =>
    set { machine with undo }
    return if ← restoreSnapshot snapshot then some snapshot.address else none

/-- Go back to the state after the start, but keep the second flag word. -/
def restart [Host η] : Engine η Continuation := do
  let machine ← get
  match machine.initial with
  | none => throw .restartBeforeStart
  | some snapshot =>
    let flags := machine.story.memory.headerWord .flags2
    update (Update.modifyMemory (·.replace snapshot.image))
    update (Update.modifyMemory fun memory => .ok (memory.setHeaderWord .flags2 flags))
    modify fun machine =>
      let generator := Generator.reset ⟨machine.randomMode, machine.host⟩ machine.config.randomSeed
      { machine with
        stack := snapshot.stack
        captures := []
        randomMode := generator.mode
        host := generator.source }
    notify .reset
    let top ← queryStack (·.top)
    return .goto top.pc

end Engine

end StoryMachine
