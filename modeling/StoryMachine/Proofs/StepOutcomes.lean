import StoryMachine.Proofs.CallIsolation
import StoryMachine.Proofs.ErrorRecovery
import StoryMachine.Proofs.OperationErrors

/-! What a step can come to, case by case: of a machine that runs, from what its instruction comes
to, and of one that waits for input, from what becomes of the read. -/

namespace StoryMachine

variable {η : Type}

def Proceeds (instruction : Instruction) (action : Engine η Continuation) : Prop :=
  ∀ ⦃before next after⦄, action before = .ok next after → next = .goto instruction.next

theorem Proceeds.bind {instruction : Instruction} {first : Engine η α}
    {next : α → Engine η Continuation} (there : ∀ value, Proceeds instruction (next value)) :
    Proceeds instruction (first >>= next) := by
  intro before target after ran
  cases started : first before with
  | ok value middle =>
    rw [bind_of_ok started] at ran
    exact there value ran
  | error error middle =>
    rw [bind_of_error started] at ran
    cases ran

theorem Proceeds.ite {instruction : Instruction} {condition : Prop} [Decidable condition]
    {first second : Engine η Continuation} (yes : Proceeds instruction first)
    (no : Proceeds instruction second) :
    Proceeds instruction (if condition then first else second) := by
  split
  · exact yes
  · exact no

namespace Engine

section Delivering

theorem proceeds_proceed (instruction : Instruction) :
    Proceeds instruction (proceed instruction : Engine η Continuation) := by
  intro before next after ran
  cases ran
  rfl

theorem proceeds_finishWith (instruction : Instruction) (value : UInt16) :
    Proceeds instruction (finishWith instruction value : Engine η Continuation) :=
  Proceeds.bind fun _ => proceeds_proceed instruction

variable [Host η]

theorem proceeds_finishLine (instruction : Instruction) (operands : Operands) (line : List Zscii)
    (terminator : Zscii) : Proceeds instruction
      (finishLine instruction operands line terminator : Engine η Continuation) := by
  have stored (_ : Unit) : Proceeds instruction (do
      if .v5 ≤ (← version) then
        storeResult instruction terminator
      proceed instruction : Engine η Continuation) :=
    Proceeds.bind fun _ =>
      (proceeds_finishWith instruction terminator).ite (proceeds_proceed instruction)
  refine Proceeds.bind fun _ => Proceeds.ite ?_ (stored ())
  exact Proceeds.bind fun _ => Proceeds.bind stored

theorem proceeds_deliver (pending : PendingRead) (terminator : Zscii) :
    Proceeds pending.instruction (deliver pending terminator : Engine η Continuation) := by
  unfold deliver
  split
  next => exact proceeds_finishWith _ terminator
  next =>
    have finished (_ : Unit) : Proceeds pending.instruction (finishLine pending.instruction
        ⟨pending.operands⟩ pending.input terminator : Engine η Continuation) :=
      proceeds_finishLine _ _ _ terminator
    refine Proceeds.bind fun machine => ?_
    refine Proceeds.ite (Proceeds.bind fun _ => ?_) ?_
    all_goals exact (Proceeds.bind finished).ite (finished ())

theorem proceeds_degrade (instruction : Instruction) (error : Error) :
    Proceeds instruction (degrade instruction error : Engine η Continuation) :=
  Proceeds.bind fun _ => proceeds_finishWith instruction 0

theorem proceeds_carryOn {instruction : Instruction} {action : Engine η Continuation}
    (here : Proceeds instruction action) : Proceeds instruction (carryOn instruction action) := by
  intro before next after ran
  cases started : action before with
  | ok value middle =>
    rw [carryOn, tryCatch_of_ok started] at ran
    cases ran
    exact here started
  | error error middle =>
    rw [carryOn, tryCatch_of_error started] at ran
    exact proceeds_degrade instruction error ran

theorem quiet_finishWith (instruction : Instruction) (value : UInt16) :
    Keeps Quiet (finishWith instruction value : Engine η Continuation) :=
  (quiet_storeResult instruction value).bind fun _ => keeps_pure _

theorem quiet_finishLine (instruction : Instruction) (operands : Operands) (line : List Zscii)
    (terminator : Zscii) :
    Keeps Quiet (finishLine instruction operands line terminator : Engine η Continuation) := by
  have stored (_ : Unit) : Keeps Quiet (do
      if .v5 ≤ (← version) then
        storeResult instruction terminator
      proceed instruction : Engine η Continuation) :=
    keeps_version.bind fun _ =>
      (quiet_finishWith instruction terminator).ite (keeps_pure _)
  refine (quiet_update (Update.keeps_writeLine _ line)).bind fun _ => ?_
  refine Keeps.ite (keeps_get.bind fun machine => ?_) (stored ())
  exact (quiet_tokenise _ _ _ _).bind stored

theorem quiet_deliver (pending : PendingRead) (terminator : Zscii) :
    Keeps Quiet (deliver pending terminator : Engine η Continuation) := by
  unfold deliver
  split
  next => exact quiet_finishWith _ terminator
  next =>
    refine keeps_get.bind fun machine => ?_
    refine (quiet_notify _).ite_bind fun _ => ?_
    exact (quiet_notify _).ite_bind fun _ => quiet_finishLine _ _ _ terminator

theorem quiet_degrade (instruction : Instruction) (error : Error) :
    Keeps Quiet (degrade instruction error : Engine η Continuation) :=
  (quiet_report error).bind fun _ => quiet_finishWith instruction 0

end Delivering

theorem setPc_cases (address : Nat) (before : Machine η) :
    (before.stack.frames = [] ∧ setPc address before = .error .noActiveFrame before) ∨
      ∃ frame outer, before.stack.frames = frame :: outer ∧ setPc address before =
        .ok () { before with stack := ⟨{ frame with pc := address } :: outer⟩ } := by
  cases frames : before.stack.frames with
  | nil => exact .inl ⟨rfl, setPc_of_inactive frames address⟩
  | cons frame outer => exact .inr ⟨frame, outer, rfl, setPc_of_active frames address⟩

/-- Nothing but the stack changes. -/
theorem finalState_setPc (address : Nat) (before : Machine η) :
    ∃ stack, finalState (setPc address before) = { before with stack } := by
  obtain ⟨-, stuck⟩ | ⟨frame, outer, -, went⟩ := setPc_cases address before
  · exact ⟨before.stack, by rw [stuck]; rfl⟩
  · exact ⟨_, by rw [went]; rfl⟩

theorem status_setPc (address : Nat) (before : Machine η) :
    (finalState (setPc address before)).status = before.status := by
  obtain ⟨stack, same⟩ := finalState_setPc address before
  rw [same]

theorem pending_setPc (address : Nat) (before : Machine η) :
    (finalState (setPc address before)).pending = before.pending := by
  obtain ⟨stack, same⟩ := finalState_setPc address before
  rw [same]

end Engine

/-- What a start that works leaves: one frame, in which the story runs, and a snapshot of it. -/
structure Machine.Begun (before after : Machine η) : Prop where
  story : Story.SameStatic before.story after.story
  host : after.host = before.host
  frames : ∃ frame, after.stack.frames = [frame] ∧ frame.kind = .procedure ∧
    frame.locals.length ≤ maxLocals ∧ frame.argumentCount = 0 ∧
    after.initial = some (after.capture frame.pc)
  status : after.status = .running
  captures : after.captures = before.captures
  undo : after.undo = before.undo
  pending : after.pending = before.pending

section Outcomes

variable [Host η]

/-- What completing a read comes to: with the machine running, its input is put where it belongs,
and execution goes on after the read. -/
inductive Completed (pending : PendingRead) (before : Machine η) :
    EStateM.Result Error (Machine η) Unit → Prop where
  | stopped {after : Machine η} {error : Error}
      (quiet : Quiet { before with status := .running } after) (admits : after.Admits error) :
      Completed pending before (.error error after)
  | went {after : Machine η} (quiet : Quiet { before with status := .running } after) :
      Completed pending before (Engine.setPc pending.instruction.next after)

/-- What coming back from an interrupt routine comes to: the read ends, or waits again. -/
inductive Resumed (before : Machine η) : EStateM.Result Error (Machine η) Unit → Prop where
  | missing (none : before.pending = none) : Resumed before (.error .interruptWithoutRead before)
  | ended {pending : PendingRead} {result : EStateM.Result Error (Machine η) Unit}
      (waits : before.pending = some pending)
      (completed : Completed pending { before with pending := none } result) :
      Resumed before result
  | waiting {pending : PendingRead} (waits : before.pending = some pending)
      (request : InputRequest) (again : request = pending.request.resume pending.input) :
      Resumed before (.ok () { before with
        pending := some { pending with request }
        status := .reading request })

inductive Machine.Stepped (machine : Machine η) :
    EStateM.Result Error (Machine η) Unit → Prop where
  | idle (frames : machine.stack.frames = []) : Stepped machine (.error .noActiveFrame machine)
  | undecoded {error : Error} (recoverable : error.isMild = true) :
      Stepped machine (.error error machine.counted)
  | stopped {instruction : Instruction} {error other : Error} {failed after : Machine η}
      (executes : machine.Executes instruction)
      (dispatched : Engine.dispatch instruction machine.counted = .error error failed)
      (quiet : Quiet failed after) (admits : after.Admits other) :
      Stepped machine (.error other after)
  | passed {instruction : Instruction} {error : Error} {failed after : Machine η}
      (executes : machine.Executes instruction)
      (dispatched : Engine.dispatch instruction machine.counted = .error error failed)
      (quiet : Quiet failed after) : Stepped machine (Engine.setPc instruction.next after)
  | advanced {instruction : Instruction} {next : Continuation} {after : Machine η}
      (executes : machine.Executes instruction)
      (dispatched : Engine.dispatch instruction machine.counted = .ok next after) :
      Stepped machine (Engine.advance next after)

structure PendingRead.SameRead (before after : PendingRead) : Prop where
  instruction : after.instruction = before.instruction
  operands : after.operands = before.operands

inductive Machine.Answered (machine : Machine η) (response : InputResponse) :
    EStateM.Result Error (Machine η) Unit → Prop where
  | missing (none : machine.pending = none) :
      Answered machine response (.error .inputWithoutRead machine)
  | lost {pending : PendingRead} {value : InputValue} {error : Error} {after : Machine η}
      (waits : machine.pending = some pending)
      (ends : (pending.consume response.values).2 = some value)
      (failed : Engine.noteClick value { machine with pending := none } = .error error after) :
      Answered machine response (.error error after)
  | completed {pending : PendingRead} {value : InputValue} {middle : Machine η}
      {result : EStateM.Result Error (Machine η) Unit} (waits : machine.pending = some pending)
      (ends : (pending.consume response.values).2 = some value)
      (noted : Engine.noteClick value { machine with pending := none } = .ok () middle)
      (completed : Completed (pending.consume response.values).1 middle result) :
      Answered machine response result
  | interrupted {pending renewed : PendingRead} {start : Nat} {locals : List UInt16}
      (waits : machine.pending = some pending)
      (unended : (pending.consume response.values).2 = none) (same : pending.SameRead renewed)
      (request : renewed.request = pending.request)
      (found : machine.story.routine renewed.request.routine = .ok (start, locals)) :
      Answered machine response (.ok () { machine with
        pending := some renewed
        status := .running
        stack := machine.stack.push
          { kind := .interrupt, address := renewed.request.routine, pc := start,
            locals := passArguments [] locals, argumentCount := 0,
            returnAddress := renewed.instruction.address } })
  | uncalled {pending renewed : PendingRead} {error : Error}
      (waits : machine.pending = some pending)
      (unended : (pending.consume response.values).2 = none) (same : pending.SameRead renewed)
      (recoverable : error.isMild = true) :
      Answered machine response
        (.error error { machine with pending := some renewed, status := .running })
  | overflowed {pending : PendingRead} (waits : machine.pending = some pending)
      (unended : (pending.consume response.values).2 = none) :
      Answered machine response (.error .clockOverflow machine)
  | waiting {pending renewed : PendingRead} (waits : machine.pending = some pending)
      (unended : (pending.consume response.values).2 = none) (same : pending.SameRead renewed)
      (shown : renewed.request.kind = .line → renewed.input = renewed.request.preloaded) :
      Answered machine response (.ok () { machine with
        pending := some renewed
        status := .reading renewed.request })

end Outcomes

namespace PendingRead

theorem sameRead_consume (pending : PendingRead) (values : List InputValue) :
    pending.SameRead (pending.consume values).1 := by
  induction values generalizing pending with
  | nil => exact ⟨rfl, rfl⟩
  | cons value rest ih =>
    rw [consume]
    split
    next => exact ⟨rfl, rfl⟩
    next => exact ⟨(ih _).instruction, (ih _).operands⟩

theorem sameRead_renew (pending : PendingRead) : pending.SameRead pending.renew := by
  unfold renew
  split <;> exact ⟨rfl, rfl⟩

/-- A renewed request for a line shows the line so far. -/
theorem renew_shows (pending : PendingRead) (line : pending.renew.request.kind = .line) :
    pending.renew.input = pending.renew.request.preloaded := by
  unfold renew at line ⊢
  split at line
  next character => cases character.symm.trans line
  next => rfl

end PendingRead

theorem InputRequest.routine_of_timed {request : InputRequest} {limit : Duration}
    (timed : request.timeoutDuration? = some limit) : request.routine ≠ 0 := by
  unfold timeoutDuration? at timed
  split at timed
  next both => exact both.2
  next => cases timed

theorem InputTimer.routine_of_tick {timer after : InputTimer} {response : InputResponse}
    {request : InputRequest}
    (ticked : timer.tick response request.timeoutDuration? = some (true, after)) :
    request.routine ≠ 0 := by
  cases timed : request.timeoutDuration? with
  | none =>
    rw [timed] at ticked
    obtain ⟨accumulated, -, fired⟩ := Option.map_eq_some_iff.mp ticked
    cases fired
  | some limit => exact InputRequest.routine_of_timed timed

namespace Engine

theorem begun_start {before after : Machine η} (started : start before = .ok () after) :
    before.Begun after := by
  let described : Machine η := { before with
    story := { before.story with
      memory := before.story.memory.describeInterpreter before.version before.config }
    stack := {} }
  have same : Story.SameStatic before.story described.story :=
    .describeInterpreter before.story before.version before.config
  -- Both ways to start end in taking a snapshot of the one frame that they push.
  have finish (frame : Frame) (procedure : frame.kind = .procedure)
      (few : frame.locals.length ≤ maxLocals) (unpassed : frame.argumentCount = 0)
      (captured : (do
        let top ← queryStack (·.top)
        modify fun machine =>
          { machine with initial := some (machine.capture top.pc), status := .running } :
        Engine η Unit) { described with stack := ⟨[frame]⟩ } = .ok () after) :
      before.Begun after := by
    have top : queryStack (·.top) { described with stack := ⟨[frame]⟩ } =
        .ok frame { described with stack := ⟨[frame]⟩ } := rfl
    rw [bind_of_ok top] at captured
    cases captured
    exact ⟨same, rfl, ⟨frame, rfl, procedure, few, unpassed, rfl⟩, rfl, rfl, rfl, rfl⟩
  have modified : (modify fun machine =>
      let memory := machine.story.memory.describeInterpreter machine.version machine.config
      { machine with story := { machine.story with memory }, stack := {} } : Engine η Unit)
      before = .ok () described := rfl
  rw [start, bind_of_ok modified, get_bind] at started
  dsimp only at started
  split at started
  next =>
    rw [call] at started
    split at started
    next => cases started
    next =>
      cases found : described.story.routine
          (described.story.format.routineAddress
            (described.story.memory.headerWord .initialPC)) with
      | error error =>
        have failed : (query (·.routine (described.story.format.routineAddress
            (described.story.memory.headerWord .initialPC))) : Engine η (Nat × List UInt16))
            described = .error error described := by simp only [query, found]
        rw [bind_assoc, bind_of_error failed] at started
        cases started
      | ok routine =>
        obtain ⟨start, locals⟩ := routine
        have ran : (query (·.routine (described.story.format.routineAddress
            (described.story.memory.headerWord .initialPC))) : Engine η (Nat × List UInt16))
            described = .ok (start, locals) described := by simp only [query, found]
        rw [bind_assoc, bind_of_ok ran] at started
        refine finish _ rfl ?_ rfl started
        rw [passArguments_length]
        exact (Story.routine_eq_ok found).2.1
  next => exact finish _ rfl (Nat.zero_le _) rfl started

variable [Host η]

theorem completed_finishRead (pending : PendingRead) (terminator : Zscii) (before : Machine η) :
    Completed pending before (finishRead pending terminator before) := by
  have running : (modify fun machine => { machine with status := .running } : Engine η Unit)
      before = .ok () { before with status := .running } := rfl
  have quiet := ((quiet_deliver pending terminator).tryCatch
    (quiet_degrade pending.instruction)) { before with status := .running }
  rw [finishRead, bind_of_ok running]
  cases ran : carryOn pending.instruction (deliver pending terminator)
      { before with status := .running } with
  | ok next after =>
    have goes := proceeds_carryOn (proceeds_deliver pending terminator) ran
    have quiet : Quiet { before with status := .running } after := by
      change Quiet _ (finalState (carryOn _ _ _)) at quiet
      rwa [ran] at quiet
    rw [bind_of_ok ran, goes]
    exact .went quiet
  | error error after =>
    have admits := admits_carryOn _ (admits_deliver pending terminator) ran
    have quiet : Quiet { before with status := .running } after := by
      change Quiet _ (finalState (carryOn _ _ _)) at quiet
      rwa [ran] at quiet
    rw [bind_of_error ran]
    exact .stopped quiet admits

theorem resumed_advance (address : Nat) (value : UInt16) (before : Machine η) :
    Resumed before (advance (.resume address value) before) := by
  unfold advance
  dsimp only
  rw [get_bind]
  cases waits : before.pending with
  | none => exact .missing waits
  | some pending =>
    dsimp only
    split
    next => exact .ended waits (completed_finishRead pending 0 _)
    next => exact .waiting waits _ rfl

theorem stepped_step {machine : Machine η} (running : machine.status = .running)
    (input : Option InputResponse) : machine.Stepped (step input machine) := by
  cases frames : machine.stack.frames with
  | nil =>
    have empty : queryStack (·.top) machine = .error .noActiveFrame machine := by
      simp only [queryStack, CallStack.top, frames]
    have stuck : step input machine = .error .noActiveFrame machine := by
      unfold step
      rw [get_bind]
      simp only [running]
      exact bind_of_error empty
    rw [stuck]
    exact .idle frames
  | cons frame outer =>
    cases decoded : machine.current with
    | error error =>
      rw [step_of_undecoded running frames decoded]
      apply Machine.Stepped.undecoded
      simp only [Machine.current, CallStack.top, frames, bind, Except.bind] at decoded
      exact machine.story.mild_decodeInstruction frame.pc error decoded
    | ok instruction =>
      have executes : machine.Executes instruction := ⟨running, decoded⟩
      cases ran : dispatch instruction machine.counted with
      | ok next after =>
        rw [step_of_ok executes ran]
        exact .advanced executes ran
      | error error failed =>
        have quiet := quiet_degrade instruction error failed
        rw [step_of_error executes ran]
        cases degraded : degrade instruction error failed with
        | ok next after =>
          rw [degraded] at quiet
          rw [bind_of_ok degraded, proceeds_degrade instruction error degraded]
          exact .passed executes ran quiet
        | error other after =>
          rw [degraded] at quiet
          have carried : carryOn instruction (dispatch instruction) machine.counted =
              .error other after := (tryCatch_of_error ran).trans degraded
          rw [bind_of_error degraded]
          exact .stopped executes ran quiet
            (admits_carryOn instruction (admits_dispatch instruction) carried)

/-- The interrupt routine of a read is entered, unless there is none at its address. -/
theorem call_interrupt {address : Nat} (callable : address ≠ 0) (returnAddress : Nat)
    (before : Machine η) :
    (∃ start locals, before.story.routine address = .ok (start, locals) ∧
      (call address [] .interrupt returnAddress >>= advance) before = .ok () { before with
        stack := before.stack.push
          { kind := .interrupt, address, pc := start, locals := passArguments [] locals,
            argumentCount := 0, returnAddress } }) ∨
    ∃ error, before.story.routine address = .error error ∧
      (call address [] .interrupt returnAddress >>= advance) before = .error error before := by
  rw [call, if_neg callable]
  cases found : before.story.routine address with
  | error error =>
    have failed : (query (·.routine address) : Engine η (Nat × List UInt16)) before =
        .error error before := by simp only [query, found]
    refine .inr ⟨error, rfl, ?_⟩
    rw [bind_assoc, bind_of_error failed]
  | ok routine =>
    obtain ⟨start, locals⟩ := routine
    have ran : (query (·.routine address) : Engine η (Nat × List UInt16)) before =
        .ok (start, locals) before := by simp only [query, found]
    refine .inl ⟨start, locals, rfl, ?_⟩
    rw [bind_assoc, bind_of_ok ran]
    exact setPc_pushed before _

theorem answered_passTime {machine : Machine η} {pending given : PendingRead}
    {response : InputResponse} (waits : machine.pending = some pending)
    (unended : (pending.consume response.values).2 = none) (same : pending.SameRead given)
    (asked : given.request = pending.request) :
    machine.Answered response (passTime given response machine) := by
  unfold passTime
  cases ticked : given.timer.tick response given.request.timeoutDuration? with
  | none => exact .overflowed waits unended
  | some ticks =>
    obtain ⟨fired, timer⟩ := ticks
    dsimp only
    split
    next happened =>
      have callable : given.request.routine ≠ 0 :=
        InputTimer.routine_of_tick (ticked.trans (by rw [happened]))
      have kept : pending.SameRead { given with timer } := ⟨same.instruction, same.operands⟩
      change machine.Answered response
        ((call given.request.routine [] .interrupt given.instruction.address >>= advance)
          { machine with pending := some { given with timer }, status := .running })
      obtain ⟨start, locals, found, entered⟩ | ⟨error, missing, failed⟩ :=
        call_interrupt callable given.instruction.address
          { machine with pending := some { given with timer }, status := .running }
      · rw [entered]
        exact .interrupted waits unended kept asked found
      · rw [failed]
        exact .uncalled waits unended kept (machine.story.mild_routine _ error missing)
    next =>
      have renewed := ({ given with timer } : PendingRead).sameRead_renew
      exact .waiting waits unended
        ⟨renewed.instruction.trans same.instruction, renewed.operands.trans same.operands⟩
        (PendingRead.renew_shows _)

theorem answered_takeInput (machine : Machine η) (response : InputResponse) :
    machine.Answered response (takeInput response machine) := by
  cases waits : machine.pending with
  | none =>
    rw [takeInput_of_unread waits]
    exact .missing waits
  | some pending =>
    cases ends : (pending.consume response.values).2 with
    | some value =>
      rw [takeInput_of_ended waits ends]
      cases noted : noteClick value { machine with pending := none } with
      | error error after =>
        rw [bind_of_error noted]
        exact .lost waits ends noted
      | ok _ middle =>
        rw [bind_of_ok noted]
        exact .completed waits ends noted (completed_finishRead _ _ middle)
    | none =>
      rw [takeInput_of_unended waits ends]
      exact answered_passTime waits ends (pending.sameRead_consume response.values)
        (pending.consume_request response.values)

theorem step_of_response {machine : Machine η} {request : InputRequest}
    (reading : machine.status = .reading request) (response : InputResponse) :
    step (some response) machine = takeInput response machine := by
  unfold step
  rw [get_bind]
  simp only [reading]

theorem step_of_no_response {machine : Machine η} {request : InputRequest}
    (reading : machine.status = .reading request) :
    step none machine = .error .inputMissing machine := by
  unfold step
  rw [get_bind]
  simp only [reading]
  rfl

theorem step_of_halted {machine : Machine η} (halted : machine.status = .halted)
    (input : Option InputResponse) : step input machine = .ok () machine := by
  unfold step
  rw [get_bind]
  simp only [halted]
  rfl

end Engine

section Errors

variable [Host η]

theorem Completed.admits {pending : PendingRead} {before after : Machine η} {error : Error}
    {result : EStateM.Result Error (Machine η) Unit} (completed : Completed pending before result)
    (failed : result = .error error after) : after.Admits error := by
  cases completed with
  | stopped quiet admits =>
    cases failed
    exact admits
  | went quiet => exact Engine.admits_setPc _ failed

/-- What a step past the start can fail with: an error that an instruction may fail with, the
want of a read, or a clock that overflows. -/
inductive Machine.Fails (machine : Machine η) (input : Option InputResponse) :
    Error → Machine η → Prop where
  | admitted {error : Error} {after : Machine η} (admits : after.Admits error) :
      Fails machine input error after
  | unread {request : InputRequest} {response : InputResponse} (given : input = some response)
      (reading : machine.status = .reading request) (none : machine.pending = none) :
      Fails machine input .inputWithoutRead machine
  | unresumed {instruction : Instruction} {address : Nat} {value : UInt16} {after : Machine η}
      (executes : machine.Executes instruction)
      (returned : Engine.dispatch instruction machine.counted = .ok (.resume address value) after)
      (none : after.pending = none) : Fails machine input .interruptWithoutRead after
  | overflowed {request : InputRequest} {response : InputResponse} (given : input = some response)
      (reading : machine.status = .reading request) : Fails machine input .clockOverflow machine

theorem Machine.Stepped.fails {machine after : Machine η} {error : Error}
    {result : EStateM.Result Error (Machine η) Unit} (stepped : machine.Stepped result)
    (failed : result = .error error after) (input : Option InputResponse) :
    machine.Fails input error after := by
  cases stepped with
  | idle frames =>
    cases failed
    exact .admitted (Engine.isEmpty_of_frames frames)
  | undecoded recoverable =>
    cases failed
    exact .admitted (Machine.admits_of_recoverable _ recoverable)
  | stopped executes dispatched quiet admits =>
    cases failed
    exact .admitted admits
  | passed executes dispatched quiet => exact .admitted (Engine.admits_setPc _ failed)
  | @advanced instruction next middle executes dispatched =>
    cases next with
    | goto address => exact .admitted (Engine.admits_setPc address failed)
    | await request => cases failed
    | quit => cases failed
    | resume address value =>
      have resumed := Engine.resumed_advance address value middle
      rw [failed] at resumed
      cases resumed with
      | missing none => exact .unresumed executes dispatched none
      | ended waits completed => exact .admitted (completed.admits rfl)

theorem Machine.Answered.fails {machine after : Machine η} {response : InputResponse}
    {error : Error} {request : InputRequest} (reading : machine.status = .reading request)
    (answered : machine.Answered response (.error error after)) :
    machine.Fails (some response) error after := by
  cases answered with
  | missing none => exact .unread rfl reading none
  | lost waits ends failed => exact .admitted (Engine.admits_noteClick _ failed)
  | completed waits ends noted completed => exact .admitted (completed.admits rfl)
  | uncalled waits unended same recoverable =>
    exact .admitted (Machine.admits_of_recoverable _ recoverable)
  | overflowed => exact .overflowed rfl reading

theorem Engine.fails_step {machine after : Machine η} {error : Error}
    {input : Option InputResponse} (begun : machine.status ≠ .starting)
    (failed : Engine.step input machine = .error error after) :
    machine.Fails input error after := by
  cases status : machine.status with
  | starting => exact absurd status begun
  | running => exact (stepped_step status input).fails failed input
  | halted =>
    rw [step_of_halted status] at failed
    cases failed
  | reading request =>
    cases input with
    | none =>
      rw [step_of_no_response status] at failed
      cases failed
      exact .admitted (Machine.admits_of_recoverable _ rfl)
    | some response =>
      have answered := answered_takeInput machine response
      rw [step_of_response status] at failed
      rw [failed] at answered
      exact answered.fails status

end Errors

/-! What a machine records of earlier states: the state to which a restart returns, and the history
for undo. Only an instruction that undoes, or takes a snapshot to undo, changes the history, and no
step past the start changes the other. -/

section Records

structure Machine.SameRecords (before after : Machine η) : Prop where
  initial : after.initial = before.initial
  undo : after.undo = before.undo

namespace Machine.SameRecords

variable {before middle after : Machine η}

theorem refl (machine : Machine η) : SameRecords machine machine :=
  ⟨rfl, rfl⟩

theorem trans (first : SameRecords before middle) (second : SameRecords middle after) :
    SameRecords before after :=
  ⟨second.initial.trans first.initial, second.undo.trans first.undo⟩

instance : IsPreorder (Machine η) SameRecords where
  refl := refl
  trans _ _ _ := trans

theorem quiet [Host η] (silent : Quiet before after) : SameRecords before after :=
  ⟨silent.initial, silent.undo⟩

theorem setPc (address : Nat) (before : Machine η) :
    SameRecords before (finalState (Engine.setPc address before)) := by
  obtain ⟨stack, same⟩ := Engine.finalState_setPc address before
  rw [same]
  exact ⟨rfl, rfl⟩

end Machine.SameRecords

variable [Host η] {before after : Machine η}

theorem SnapshotAction.initial_eq (action : SnapshotAction before after) :
    after.initial = before.initial := by
  cases action with
  | none | saved | missed | noted | dropped | restarted => rfl
  | restored found went =>
    obtain ⟨-, memory, -, rfl⟩ := Machine.restore?_eq_some went
    rfl
  | undone popped went =>
    obtain ⟨-, memory, -, rfl⟩ := Machine.restore?_eq_some went
    rfl

theorem Returned.sameRecords {frame : Frame} {value : UInt16}
    {result : EStateM.Result Error (Machine η) Continuation}
    (returned : Returned frame value before result) : before.SameRecords (finalState result) := by
  cases returned with
  | last | dropped | resumed => exact .refl before
  | @stored store after active kind written =>
    have quiet := Engine.quiet_writeVariable store.target.toNat value before
    rw [written] at quiet
    exact .quiet quiet
  | @unstored store error after active kind failed =>
    have quiet := Engine.quiet_writeVariable store.target.toNat value before
    rw [failed] at quiet
    exact .quiet quiet

theorem Finished.sameRecords {result : EStateM.Result Error (Machine η) Continuation}
    (finished : Finished before result) : before.SameRecords (finalState result) := by
  cases finished with
  | went quiet | failed quiet | stopped quiet => exact .quiet quiet
  | waits quiet => exact ⟨quiet.initial, quiet.undo⟩
  | returns quiet frames returned =>
    have kept := returned.sameRecords
    exact .trans (.quiet quiet) ⟨kept.initial, kept.undo⟩

theorem Called.sameRecords {instruction : Instruction} {arguments : Operands → List UInt16}
    {result : EStateM.Result Error (Machine η) Continuation}
    (called : Called instruction arguments before result) :
    before.SameRecords (finalState result) := by
  cases called with
  | unevaluated quiet => exact .quiet quiet
  | @evaluated required operands middle result ran entered =>
    have quiet := Engine.quiet_evaluate instruction required before
    rw [ran] at quiet
    cases entered with
    | skipped later | failed later => exact .quiet (quiet.trans later)
    | pushed => exact ⟨quiet.initial, quiet.undo⟩

theorem Completed.sameRecords {pending : PendingRead}
    {result : EStateM.Result Error (Machine η) Unit} (completed : Completed pending before result) :
    before.SameRecords (finalState result) := by
  cases completed with
  | stopped quiet => exact ⟨quiet.initial, quiet.undo⟩
  | went quiet => exact .trans ⟨quiet.initial, quiet.undo⟩ (.setPc _ _)

theorem Resumed.sameRecords {result : EStateM.Result Error (Machine η) Unit}
    (resumed : Resumed before result) : before.SameRecords (finalState result) := by
  cases resumed with
  | missing | waiting => exact ⟨rfl, rfl⟩
  | ended waits completed =>
    have kept := completed.sameRecords
    exact ⟨kept.initial, kept.undo⟩

theorem Machine.Answered.sameRecords {response : InputResponse}
    {result : EStateM.Result Error (Machine η) Unit} (answered : before.Answered response result) :
    before.SameRecords (finalState result) := by
  cases answered with
  | missing | interrupted | uncalled | overflowed | waiting => exact ⟨rfl, rfl⟩
  | @lost pending value error after waits ends failed =>
    have quiet := Engine.quiet_noteClick value { before with pending := none }
    rw [failed] at quiet
    exact ⟨quiet.initial, quiet.undo⟩
  | @completed pending value middle result waits ends noted completed =>
    have quiet := Engine.quiet_noteClick value { before with pending := none }
    rw [noted] at quiet
    exact .trans ⟨quiet.initial, quiet.undo⟩ completed.sameRecords

namespace Engine

theorem sameRecords_advance (next : Continuation) :
    Keeps Machine.SameRecords (advance next : Engine η Unit) := by
  intro before
  cases next with
  | goto address => exact .setPc address before
  | await | quit => exact ⟨rfl, rfl⟩
  | resume address value => exact (resumed_advance address value before).sameRecords

/-- After a step, the records are what the instruction left that it executed. -/
theorem sameRecords_step_of_executes {machine : Machine η} {instruction : Instruction}
    (executes : machine.Executes instruction) (input : Option InputResponse) :
    (finalState (dispatch instruction machine.counted)).SameRecords
      (finalState (step input machine)) := by
  cases ran : dispatch instruction machine.counted with
  | ok next middle =>
    rw [step_of_ok executes ran]
    exact sameRecords_advance next middle
  | error error middle =>
    have passed : Keeps Machine.SameRecords (degrade instruction error : Engine η Continuation) :=
      (quiet_degrade instruction error).mono fun _ _ => .quiet
    rw [step_of_error executes ran]
    exact (passed.bind sameRecords_advance) middle

/-- A step that executes nothing leaves the records alone. -/
theorem sameRecords_step_of_idle {machine : Machine η} (begun : machine.status ≠ .starting)
    (idle : ∀ instruction, ¬ machine.Executes instruction) (input : Option InputResponse) :
    machine.SameRecords (finalState (step input machine)) := by
  cases status : machine.status with
  | starting => exact absurd status begun
  | running =>
    have stepped := stepped_step status input
    generalize step input machine = result at stepped ⊢
    cases stepped with
    | idle | undecoded => exact ⟨rfl, rfl⟩
    | stopped executes | passed executes | advanced executes => exact absurd executes (idle _)
  | halted =>
    rw [step_of_halted status]
    exact .refl machine
  | reading request =>
    cases input with
    | none =>
      rw [step_of_no_response status]
      exact .refl machine
    | some response =>
      rw [step_of_response status]
      exact (answered_takeInput machine response).sameRecords

theorem initial_dispatch (instruction : Instruction) (before : Machine η) :
    (finalState (dispatch instruction before)).initial = before.initial := by
  cases performs_dispatch instruction before with
  | intro quiet action finished =>
    exact finished.sameRecords.initial.trans (action.initial_eq.trans quiet.initial)
  | called quiet called => exact called.sameRecords.initial.trans quiet.initial

theorem initial_step {machine : Machine η} (begun : machine.status ≠ .starting)
    (input : Option InputResponse) :
    (finalState (step input machine)).initial = machine.initial := by
  by_cases executes : ∃ instruction, machine.Executes instruction
  · obtain ⟨instruction, executes⟩ := executes
    exact (sameRecords_step_of_executes executes input).initial.trans
      (initial_dispatch instruction machine.counted)
  · rw [not_exists] at executes
    exact (sameRecords_step_of_idle begun executes input).initial

end Engine

end Records

end StoryMachine
