import StoryMachine.Execution
import StoryMachine.Proofs.Operations
import StoryMachine.Proofs.Variables

/-! What a step of a running machine comes to, from what its instruction comes to, and what taking a
response comes to, from what it does to the read. -/

namespace StoryMachine

variable {η : Type}

namespace Machine

def current (machine : Machine η) : Except Error Instruction := do
  let top ← machine.stack.top
  machine.story.decodeInstruction top.pc

/-- The machine runs, and this is the instruction that its next step executes. -/
structure Executes (machine : Machine η) (instruction : Instruction) : Prop where
  running : machine.status = .running
  decoded : machine.current = .ok instruction

def counted (machine : Machine η) : Machine η :=
  { machine with instructionCount := machine.instructionCount + 1 }

theorem current_eq_ok {machine : Machine η} {instruction : Instruction}
    (decoded : machine.current = .ok instruction) :
    ∃ frame outer, machine.stack.frames = frame :: outer ∧
      machine.story.decodeInstruction frame.pc = .ok instruction := by
  cases frames : machine.stack.frames with
  | nil =>
    simp only [current, CallStack.top, frames, bind, Except.bind] at decoded
    cases decoded
  | cons frame outer =>
    simp only [current, CallStack.top, frames, bind, Except.bind] at decoded
    exact ⟨frame, outer, rfl, decoded⟩

def executed? (machine : Machine η) : Option Instruction :=
  if machine.status = .running then machine.current.toOption else none

theorem executed?_eq_some_iff {machine : Machine η} {instruction : Instruction} :
    machine.executed? = some instruction ↔ machine.Executes instruction := by
  constructor
  · intro found
    unfold executed? at found
    split at found
    next running =>
      cases decoded : machine.current with
      | error error =>
        rw [decoded] at found
        cases found
      | ok other =>
        rw [decoded] at found
        cases found
        exact ⟨running, decoded⟩
    next => cases found
  · rintro ⟨running, decoded⟩
    rw [executed?, if_pos running, decoded]
    rfl

def nextOperation? (machine : Machine η) : Option Operation :=
  machine.executed?.bind (·.opcode.operation?)

theorem nextOperation?_eq_some {machine : Machine η} {operation : Operation}
    (next : machine.nextOperation? = some operation) :
    ∃ instruction, machine.Executes instruction ∧
      instruction.opcode.operation? = some operation := by
  obtain ⟨instruction, found, means⟩ := Option.bind_eq_some_iff.mp next
  exact ⟨instruction, executed?_eq_some_iff.mp found, means⟩

end Machine

namespace Engine

variable [Host η] {machine middle : Machine η} {instruction : Instruction}

theorem step_of_executes (executes : machine.Executes instruction) (input : Option InputResponse) :
    step input machine =
      (carryOn instruction (dispatch instruction) >>= advance) machine.counted := by
  obtain ⟨frame, outer, frames, decoded⟩ := Machine.current_eq_ok executes.decoded
  have top : queryStack (·.top) machine = .ok frame machine := by
    simp only [queryStack, CallStack.top, frames]
  have found : query (·.decodeInstruction frame.pc) machine.counted =
      .ok instruction machine.counted := by
    simp only [query, Machine.counted, decoded]
  unfold step
  rw [get_bind]
  simp only [executes.running]
  rw [execute, bind_of_ok top]
  exact bind_of_ok found

theorem step_of_undecoded {frame : Frame} {outer : List Frame} {error : Error}
    (running : machine.status = .running) (frames : machine.stack.frames = frame :: outer)
    (undecoded : machine.current = .error error) (input : Option InputResponse) :
    step input machine = .error error machine.counted := by
  have top : queryStack (·.top) machine = .ok frame machine := by
    simp only [queryStack, CallStack.top, frames]
  have failed : query (·.decodeInstruction frame.pc) machine.counted =
      .error error machine.counted := by
    simp only [Machine.current, CallStack.top, frames, bind, Except.bind] at undecoded
    simp only [query, Machine.counted, undecoded]
  unfold step
  rw [get_bind]
  simp only [running]
  have counted : (modify fun machine =>
      { machine with instructionCount := machine.instructionCount + 1 } : Engine η Unit) machine =
      .ok () machine.counted := rfl
  rw [execute, bind_of_ok top, bind_of_ok counted]
  exact bind_of_error failed

/-- A step depends on what its instruction comes to, not on how. -/
theorem step_of_same_dispatch (executes : machine.Executes instruction)
    {action : Engine η Continuation} (same : dispatch instruction machine.counted = action middle)
    (input : Option InputResponse) :
    step input machine = (carryOn instruction action >>= advance) middle := by
  have carried : carryOn instruction (dispatch instruction) machine.counted =
      carryOn instruction action middle := by
    rw [carryOn, carryOn, tryCatch_eq, tryCatch_eq, same]
  rw [step_of_executes executes]
  simp only [bind, EStateM.bind, carried]

/-- An instruction that works is followed up by what it asks for. -/
theorem step_of_ok (executes : machine.Executes instruction) {next : Continuation}
    (ran : dispatch instruction machine.counted = .ok next middle) (input : Option InputResponse) :
    step input machine = advance next middle := by
  rw [step_of_executes executes]
  exact bind_of_ok (tryCatch_of_ok ran)

/-- What an instruction comes to may be put in another way. -/
theorem step_of_dispatch (executes : machine.Executes instruction) {action : Engine η Continuation}
    (same : dispatch instruction machine.counted = action middle) {after : Machine η}
    (ran : (action >>= advance) middle = .ok () after) (input : Option InputResponse) :
    step input machine = .ok () after := by
  cases went : action middle with
  | ok next final =>
    rw [bind_of_ok went] at ran
    rw [step_of_ok executes (same.trans went), ran]
  | error error final =>
    rw [bind_of_error went] at ran
    cases ran

/-- An instruction that fails is reported, stores 0, and is passed over. -/
theorem step_of_error (executes : machine.Executes instruction) {error : Error}
    (failed : dispatch instruction machine.counted = .error error middle)
    (input : Option InputResponse) :
    step input machine = (degrade instruction error >>= advance) middle := by
  have caught : carryOn instruction (dispatch instruction) machine.counted =
      degrade instruction error middle := tryCatch_of_error failed
  rw [step_of_executes executes]
  simp only [bind, EStateM.bind, caught]

section Responses

variable {read : PendingRead} {response : InputResponse}

theorem takeInput_of_unread (gone : machine.pending = none) :
    takeInput response machine = .error .inputWithoutRead machine := by
  unfold takeInput
  rw [get_bind]
  simp only [gone]
  rfl

theorem takeInput_of_ended (waits : machine.pending = some read) {value : InputValue}
    (ends : (read.consume response.values).2 = some value) : takeInput response machine =
      (noteClick value >>= fun _ => finishRead (read.consume response.values).1 value.zscii)
        { machine with pending := none } := by
  have taken : (modify fun machine => { machine with pending := none } : Engine η Unit) machine =
      .ok () { machine with pending := none } := rfl
  unfold takeInput
  rw [get_bind]
  simp only [waits, ends]
  exact bind_of_ok taken

theorem takeInput_of_unended (waits : machine.pending = some read)
    (unended : (read.consume response.values).2 = none) : takeInput response machine =
      passTime (read.consume response.values).1 response machine := by
  unfold takeInput
  rw [get_bind]
  simp only [waits, unended]

end Responses

end Engine

/-- A machine at the code at 0x40 of a story that has 0x80 bytes, all of them dynamic. The bytes
that are not given are 0. -/
def Machine.ofBytes (version : Version) (bytes : List (Nat × UInt8)) : Machine MemoryStore where
  story :=
    { format := ⟨version, 0, 0⟩
      memory :=
        { bytes := ((List.range 0x80).map fun address => (bytes.lookup address).getD 0).toArray
          staticMark := 0x80
          fileLength := 0
          pristine := Array.replicate 0x80 0
          header_le_mark := by decide
          mark_le_size := by simp
          pristine_size := by simp } }
  config := {}
  host := {}
  stack :=
    ⟨[{ kind := .procedure, address := 0x40, pc := 0x40, locals := [], argumentCount := 0,
        returnAddress := 0 }]⟩
  status := .running

end StoryMachine
