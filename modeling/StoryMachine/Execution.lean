import StoryMachine.Input.Source
import StoryMachine.Machine.Starting
import StoryMachine.Semantics.Dispatch

/-! Executing a story: one instruction or one piece of input at a time, and whole runs. -/

namespace StoryMachine

namespace Engine

variable {η : Type} [Host η]

/-- Carry on after an error in an instruction, if the error policy lets it: its result is 0, and
execution goes on after it. -/
def degrade (instruction : Instruction) (error : Error) : Engine η Continuation := do
  report error
  finishWith instruction 0

/-- Run what finishes an instruction, and carry on after a recoverable error in it. -/
def carryOn (instruction : Instruction) (action : Engine η Continuation) :
    Engine η Continuation := do
  try action
  catch error => degrade instruction error

/-- Put the input of a read where it belongs. A line is echoed to the command script and to the
transcript, if they are written. -/
def deliver (pending : PendingRead) (terminator : Zscii) : Engine η Continuation := do
  match pending.request.kind with
  | .character => finishWith pending.instruction terminator
  | .line =>
    let echo := pending.input ++ [Zscii.newLine]
    let machine ← get
    if machine.commandScript then
      notify (.commandScript echo)
    if machine.captures.isEmpty ∧ machine.story.memory.hasFlag2 GameFlag.transcripting then
      notify (.transcript echo)
    finishLine pending.instruction ⟨pending.operands⟩ pending.input terminator

/-- Act on a continuation that does not come back from an interrupt. -/
def follow (next : Continuation) : Engine η Unit := do
  match next with
  | .goto address => setPc address
  | .await request => modify fun machine => { machine with status := .reading request }
  | .quit => modify fun machine => { machine with status := .halted }
  | .resume _ _ => throw .interruptWithoutRead

def finishRead (pending : PendingRead) (terminator : Zscii) : Engine η Unit := do
  modify fun machine => { machine with status := .running }
  let next ← carryOn pending.instruction (deliver pending terminator)
  follow next

/-- Act on a continuation. A read whose interrupt routine returns true ends there; otherwise it
waits again. -/
def advance (next : Continuation) : Engine η Unit := do
  match next with
  | .resume _ value =>
    match (← get).pending with
    | none => throw .interruptWithoutRead
    | some pending =>
      if value ≠ 0 then
        modify fun machine => { machine with pending := none }
        finishRead pending 0
      else
        let request := pending.request.resume pending.input
        modify fun machine =>
          { machine with
            pending := some { pending with request }
            status := .reading request }
  | next => follow next

def execute : Engine η Unit := do
  let top ← queryStack (·.top)
  modify fun machine => { machine with instructionCount := machine.instructionCount + 1 }
  let instruction ← query (·.decodeInstruction top.pc)
  let next ← carryOn instruction (dispatch instruction)
  advance next

def noteClick (value : InputValue) : Engine η Unit :=
  match value with
  | .mouseClick column row => do
    update (Update.modifyMemory (·.setExtension .mouseX column))
    update (Update.modifyMemory (·.setExtension .mouseY row))
  | .character _ | .special _ => pure ()

end Engine

def isLineCharacter (code : Zscii) : Bool :=
  (32 ≤ code ∧ code ≤ 126) ∨ (155 ≤ code ∧ code ≤ 251)

/-- Edit a line with a code that does not end it: 8 deletes the last character, characters are
appended in lower case while there is room, and other codes do nothing. -/
def editLine (maxLength : Nat) (line : List Zscii) (code : Zscii) : List Zscii :=
  if code = 8 then line.dropLast
  else if isLineCharacter code ∧ line.length < maxLength then line ++ [code.toLower]
  else line

namespace PendingRead

/-- Take input values up to the one that ends the read. The answer is the read as it is then,
and that value if there is one. -/
def consume (pending : PendingRead) : List InputValue → PendingRead × Option InputValue
  | [] => (pending, none)
  | value :: rest =>
    if pending.request.isTerminator value.zscii then (pending, some value)
    else
      let input := editLine pending.request.maxLength pending.input value.zscii
      { pending with input }.consume rest

/-- The request for the rest of a line, which starts with the line so far. -/
def renew (pending : PendingRead) : PendingRead :=
  match pending.request.kind with
  | .character => pending
  | .line =>
    let request := pending.request
    { pending with
      request := .line request.maxLength pending.input request.terminators request.timeout
        request.routine }

end PendingRead

namespace Engine

variable {η : Type} [Host η]

/-- Let the time of a response pass for a read that the response does not end: the clock runs out,
and the interrupt routine is called, or the read waits again. Nothing comes after a clock that
overflows. -/
def passTime (pending : PendingRead) (response : InputResponse) : Engine η Unit := do
  match pending.timer.tick response pending.request.timeoutDuration? with
  | none => throw .clockOverflow
  | some (fired, timer) =>
    let pending := { pending with timer }
    if fired then
      modify fun machine => { machine with pending := some pending, status := .running }
      let next ← call pending.request.routine [] .interrupt pending.instruction.address
      advance next
    else
      let pending := pending.renew
      modify fun machine =>
        { machine with status := .reading pending.request, pending := some pending }

/-- Give a response to the read that waits for it. -/
def takeInput (response : InputResponse) : Engine η Unit := do
  match (← get).pending with
  | none => throw .inputWithoutRead
  | some pending =>
    let (pending, ending) := pending.consume response.values
    match ending with
    | some value =>
      modify fun machine => { machine with pending := none }
      noteClick value
      finishRead pending value.zscii
    | none => passTime pending response

/-- Start the story, execute an instruction, or take input, whichever is next. -/
def step (input : Option InputResponse) : Engine η Unit := do
  match (← get).status with
  | .starting => start
  | .running => execute
  | .reading _ =>
    match input with
    | some response => takeInput response
    | none => throw .inputMissing
  | .halted => return

/-- Take at most `count` steps, without input and while the story runs, after `taken` others. The
answer is how many were taken in all. -/
def stepsFrom (taken : Nat) : (count : Nat) → Engine η Nat
  | 0 => return taken
  | count + 1 => do
    step none
    if (← get).status = .running then stepsFrom (taken + 1) count else return taken + 1

def steps (count : Nat) : Engine η Nat :=
  stepsFrom 0 count

end Engine

structure Run (η ι : Type) where
  result : Except Error Unit
  machine : Machine η
  source : ι

namespace Machine

variable {η ι : Type} [Host η] [InputSource ι]

/-- Run a story from a step with the given input, until it halts, fails, or has no more input. A
run that takes more than `limit` steps has no end here. -/
def runFrom (machine : Machine η) (source : ι) (input : Option InputResponse) :
    (limit : Nat) → Option (Run η ι)
  | 0 => none
  | limit + 1 =>
    match Engine.step input machine with
    | .error error machine => some ⟨.error error, machine, source⟩
    | .ok _ machine =>
      match machine.status with
      | .halted => some ⟨.ok (), machine, source⟩
      | .reading request =>
        let (response, source) := InputSource.read request source
        if response.isEmpty then some ⟨.ok (), machine, source⟩
        else machine.runFrom source (some response) limit
      | .starting | .running => machine.runFrom source none limit

def run (machine : Machine η) (source : ι) (limit : Nat) : Option (Run η ι) :=
  machine.runFrom source none limit

end Machine

end StoryMachine
