import StoryMachine.Config
import StoryMachine.Input.Basic
import StoryMachine.Presentation
import StoryMachine.Random.Generator
import StoryMachine.Snapshot
import StoryMachine.Story
import StoryMachine.Text.Decoding

/-! The machine that executes a story, and the steps from which its operations are made. A step
can fail; what it changed before failing stays changed. -/

namespace StoryMachine

/-- Everything outside the machine: what it shows its output to, draws random numbers from, and
saves games in. -/
class Host (η : Type) extends Presentation η, RandomSource η, SaveStore η

inductive Status where
  /-- Loaded, but the header is not filled in yet. -/
  | starting
  | running
  | reading (request : InputRequest)
  | halted
  deriving DecidableEq, Repr

/-- An instruction that waits for input. -/
structure PendingRead where
  instruction : Instruction
  operands : List UInt16
  request : InputRequest
  /-- The line so far. -/
  input : List Zscii
  timer : InputTimer := {}
  deriving DecidableEq, Repr

/-- Output that is kept for a table in memory. -/
structure Capture where
  table : Nat
  text : List Zscii := []
  deriving DecidableEq, Repr

structure Machine (η : Type) where
  story : Story
  config : Config
  host : η
  stack : CallStack := {}
  status : Status := .starting
  randomMode : RandomMode := .random
  /-- The kinds of errors the player has been told of. -/
  reported : List ErrorCode := []
  undo : UndoHistory := {}
  /-- The state after the start, to which a restart returns. -/
  initial : Option Snapshot := none
  /-- Is output shown on the screen? -/
  screen : Bool := true
  /-- Output kept for tables, the innermost first. It is shown nowhere else. -/
  captures : List Capture := []
  /-- Are commands written to a script? -/
  commandScript : Bool := false
  pending : Option PendingRead := none
  instructionCount : Nat := 0

def Machine.load (image : Array UInt8) (config : Config) (host : η) :
    Except Error (Machine η) := do
  let story ← Story.load image
  return { story, config, host }

def Machine.version (machine : Machine η) : Version :=
  machine.story.version

inductive Continuation where
  | goto (address : Nat)
  | await (request : InputRequest)
  /-- An interrupt routine has returned to the read at an address. -/
  | resume (address : Nat) (value : UInt16)
  | quit
  deriving DecidableEq, Repr

abbrev Engine (η : Type) := EStateM Error (Machine η)

namespace Engine

variable {η α : Type}

def query (read : Story → Except Error α) : Engine η α := fun machine =>
  match read machine.story with
  | .ok value => .ok value machine
  | .error error => .error error machine

def update (change : Update α) : Engine η α := fun machine =>
  match change machine.story with
  | .ok value story => .ok value { machine with story }
  | .error error story => .error error { machine with story }

def queryStack (read : CallStack → Except Error α) : Engine η α := fun machine =>
  match read machine.stack with
  | .ok value => .ok value machine
  | .error error => .error error machine

/-- Change the call stack, or fail and leave it alone. -/
def updateStack (change : CallStack → Except Error (α × CallStack)) : Engine η α := fun machine =>
  match change machine.stack with
  | .ok (value, stack) => .ok value { machine with stack }
  | .error error => .error error machine

def updateTop (change : Frame → Except Error (α × Frame)) : Engine η α :=
  updateStack (·.modifyTop change)

def version : Engine η Version :=
  return (← get).version

def ask (question : η → α × η) : Engine η α := fun machine =>
  let (answer, host) := question machine.host
  .ok answer { machine with host }

def notify [Presentation η] (notice : Notice) : Engine η Unit :=
  modify fun machine => { machine with host := Presentation.notify notice machine.host }

/-- Tell the player of an error as the error policy says. Only a recoverable error is survived,
and only if the policy is not to abort. -/
def report [Presentation η] (error : Error) : Engine η Unit := do
  let machine ← get
  if ¬ error.isRecoverable then
    throw error
  match machine.config.errorPolicy with
  | .abort => throw error
  | .ignore => return
  | .warnOnce =>
    if error.code ∉ machine.reported then
      set { machine with reported := error.code :: machine.reported }
      notify (.error error.code error.message)
  | .warnAlways => notify (.error error.code error.message)

def reportAll [Presentation η] (errors : List Error) : Engine η Unit :=
  errors.forM report

def setPc (address : Nat) : Engine η Unit :=
  updateTop fun frame => .ok ((), { frame with pc := address })

/-- Decode words of text, reporting what is wrong with them. -/
def decodeWords [Presentation η] (words : List UInt16) : Engine η (List Zscii) := do
  let decoded ← query (·.decodeWords words)
  reportAll decoded.warnings
  return decoded.text

def decodeAt [Presentation η] (address : Nat) : Engine η (List Zscii) := do
  let decoded ← query (·.decodeAt address)
  reportAll decoded.warnings
  return decoded.text

end Engine

end StoryMachine
