import StoryMachine.Execution
import StoryMachine.Proofs.Operations

/-! The changes that a machine is capable of. Whatever a step does, and whether or not it fails, it
does by a sequence of these; so what each of them preserves holds in every state of every run. -/

namespace StoryMachine

variable {η : Type} [Host η]

inductive Transition (before : Machine η) : Machine η → Prop where
  | quiet {after : Machine η} (quiet : Quiet before after) : Transition before after
  | snapshots {after : Machine η} (action : SnapshotAction before after) : Transition before after
  | jumped {frame : Frame} {outer : List Frame} (frames : before.stack.frames = frame :: outer)
      (address : Nat) :
      Transition before { before with stack := ⟨{ frame with pc := address } :: outer⟩ }
  | called {address start : Nat} {locals : List UInt16}
      (found : before.story.routine address = .ok (start, locals)) (arguments : List UInt16)
      (kind : RoutineKind) (returnAddress : Nat) :
      Transition before { before with
        stack := before.stack.push
          { kind, address, pc := start, locals := passArguments arguments locals,
            argumentCount := UInt8.ofNat arguments.length, returnAddress } }
  | returned {left outer : List Frame} {frame : Frame}
      (frames : before.stack.frames = left ++ frame :: outer) :
      Transition before { before with stack := ⟨outer⟩ }
  | awaited (pending : Option PendingRead) : Transition before { before with pending }
  | entered (status : Status) : Transition before { before with status }
  | counted : Transition before { before with instructionCount := before.instructionCount + 1 }
  | described : Transition before { before with
      story := { before.story with
        memory := before.story.memory.describeInterpreter before.version before.config }
      stack := {} }
  | began (pc : Nat) : Transition before { before with
      stack := before.stack.push
        { kind := .procedure, address := pc, pc, locals := [], argumentCount := 0,
          returnAddress := 0 } }
  | started (address : Nat) :
      Transition before { before with initial := some (before.capture address) }

abbrev Reaches : Machine η → Machine η → Prop :=
  Relation.ReflTransGen Transition

instance : IsPreorder (Machine η) Reaches where
  refl _ := .refl
  trans _ _ _ := .trans

theorem reaches_paused (machine : Machine η) (pending : Option PendingRead) (status : Status) :
    Reaches machine { machine with pending, status } := by
  have awaited : Reaches machine { machine with pending } := .single (.awaited pending)
  exact awaited.tail (.entered status)

theorem Quiet.reaches {before after : Machine η} (quiet : Quiet before after) :
    Reaches before after :=
  .single (.quiet quiet)

theorem Returned.reaches {frame : Frame} {value : UInt16} {before : Machine η}
    {result : EStateM.Result Error (Machine η) Continuation}
    (returned : Returned frame value before result) : Reaches before (finalState result) := by
  cases returned with
  | last | dropped | resumed => exact .refl
  | @stored store after active kind written =>
    have quiet := Engine.quiet_writeVariable store.target.toNat value before
    rw [written] at quiet
    exact quiet.reaches
  | @unstored store error after active kind failed =>
    have quiet := Engine.quiet_writeVariable store.target.toNat value before
    rw [failed] at quiet
    exact quiet.reaches

theorem Finished.reaches {before : Machine η}
    {result : EStateM.Result Error (Machine η) Continuation} (finished : Finished before result) :
    Reaches before (finalState result) := by
  cases finished with
  | went quiet | failed quiet | stopped quiet => exact quiet.reaches
  | waits quiet pending => exact quiet.reaches.tail (.awaited (some pending))
  | returns quiet frames returned =>
    exact (quiet.reaches.tail (.returned frames)).trans returned.reaches

theorem Entered.reaches {address : Nat} {arguments : List UInt16} {before : Machine η}
    {result : EStateM.Result Error (Machine η) Continuation}
    (entered : Entered address arguments before result) : Reaches before (finalState result) := by
  cases entered with
  | skipped quiet | failed quiet => exact quiet.reaches
  | pushed found kind returnAddress => exact .single (.called found arguments kind returnAddress)

theorem Called.reaches {instruction : Instruction} {arguments : Operands → List UInt16}
    {before : Machine η} {result : EStateM.Result Error (Machine η) Continuation}
    (called : Called instruction arguments before result) : Reaches before (finalState result) := by
  cases called with
  | unevaluated quiet error => exact quiet.reaches
  | @evaluated required operands middle result ran entered =>
    have quiet := Engine.quiet_evaluate instruction required before
    rw [ran] at quiet
    exact quiet.reaches.trans entered.reaches

theorem Performed.reaches {before : Machine η}
    {result : EStateM.Result Error (Machine η) Continuation} (performed : Performed before result) :
    Reaches before (finalState result) := by
  cases performed with
  | intro quiet snapshots finished =>
    exact (quiet.reaches.tail (.snapshots snapshots)).trans finished.reaches
  | called quiet called => exact quiet.reaches.trans called.reaches

namespace Engine

theorem reaches_of_quiet {action : Engine η α} (kept : Keeps Quiet action) :
    Keeps Reaches action :=
  kept.mono fun _ _ quiet => quiet.reaches

theorem reaches_of_finishes {action : Engine η Continuation} (finishes : Finishes action) :
    Keeps Reaches action :=
  fun before => (finishes before).reaches

theorem reaches_call (address : Nat) (arguments : List UInt16) (kind : RoutineKind)
    (returnAddress : Nat) :
    Keeps Reaches (call address arguments kind returnAddress : Engine η Continuation) :=
  fun before => (entered_call address arguments kind returnAddress before).reaches

theorem reaches_dispatch (instruction : Instruction) :
    Keeps Reaches (dispatch instruction : Engine η Continuation) :=
  fun before => (performs_dispatch instruction before).reaches

theorem reaches_setPc (address : Nat) : Keeps Reaches (setPc address : Engine η Unit) := by
  intro before
  cases frames : before.stack.frames with
  | nil =>
    simp only [setPc, updateTop, updateStack, CallStack.modifyTop, frames]
    exact .refl
  | cons frame outer =>
    simp only [setPc, updateTop, updateStack, CallStack.modifyTop, frames, bind, Except.bind, pure,
      Except.pure]
    exact .single (.jumped frames address)

theorem reaches_degrade (instruction : Instruction) (error : Error) :
    Keeps Reaches (degrade instruction error : Engine η Continuation) := by
  apply reaches_of_finishes
  exact (quiet_report error).finishes fun _ => finishes_finishWith instruction 0

theorem reaches_carryOn (instruction : Instruction) {action : Engine η Continuation}
    (kept : Keeps Reaches action) : Keeps Reaches (carryOn instruction action) :=
  kept.tryCatch fun error => reaches_degrade instruction error

theorem finishes_deliver (pending : PendingRead) (terminator : Zscii) :
    Finishes (deliver pending terminator : Engine η Continuation) := by
  unfold deliver
  split
  next => exact finishes_finishWith _ terminator
  next =>
    refine keeps_get.finishes fun machine => ?_
    refine (quiet_notify _).finishes_ite fun _ => ?_
    exact (quiet_notify _).finishes_ite fun _ => finishes_finishLine _ _ _ terminator

theorem reaches_follow (next : Continuation) : Keeps Reaches (follow next : Engine η Unit) := by
  cases next with
  | goto address => exact reaches_setPc address
  | await request => exact keeps_modify fun before => .single (.entered (.reading request))
  | resume address value => exact keeps_throw _
  | quit => exact keeps_modify fun before => .single (.entered .halted)

theorem reaches_finishRead (pending : PendingRead) (terminator : Zscii) :
    Keeps Reaches (finishRead pending terminator : Engine η Unit) := by
  have running : Keeps Reaches
      (modify fun machine => { machine with status := .running } : Engine η Unit) :=
    keeps_modify fun before => .single (.entered .running)
  have delivered : Keeps Reaches (deliver pending terminator : Engine η Continuation) :=
    reaches_of_finishes (finishes_deliver pending terminator)
  refine running.bind fun _ => ?_
  exact (reaches_carryOn _ delivered).bind fun next => reaches_follow next

private theorem reaches_takePending : Keeps Reaches
    (modify fun machine => { machine with pending := none } : Engine η Unit) :=
  keeps_modify fun _ => .single (.awaited none)

theorem reaches_advance (next : Continuation) : Keeps Reaches (advance next : Engine η Unit) := by
  cases next with
  | goto address => exact reaches_follow (.goto address)
  | await request => exact reaches_follow (.await request)
  | quit => exact reaches_follow .quit
  | resume address value =>
    refine keeps_get.bind fun machine => ?_
    split
    next => exact keeps_throw _
    next pending _ =>
      refine Keeps.ite ?_ ?_
      · exact reaches_takePending.bind fun _ => reaches_finishRead pending 0
      · exact keeps_modify fun before => reaches_paused before _ _

theorem reaches_execute : Keeps Reaches (execute : Engine η Unit) := by
  have counted : Keeps Reaches (modify fun machine =>
      { machine with instructionCount := machine.instructionCount + 1 } : Engine η Unit) :=
    keeps_modify fun before => .single .counted
  refine (keeps_queryStack _).bind fun top => ?_
  refine counted.bind fun _ => ?_
  refine (keeps_query _).bind fun instruction => ?_
  refine (reaches_carryOn instruction (reaches_dispatch instruction)).bind fun next => ?_
  exact reaches_advance next

theorem quiet_noteClick (value : InputValue) : Keeps Quiet (noteClick value : Engine η Unit) := by
  cases value with
  | mouseClick column row =>
    exact (quiet_update (Update.keeps_setExtension _ _)).bind fun _ =>
      quiet_update (Update.keeps_setExtension _ _)
  | character | special => exact keeps_pure ()

theorem reaches_passTime (pending : PendingRead) (response : InputResponse) :
    Keeps Reaches (passTime pending response : Engine η Unit) := by
  unfold passTime
  cases pending.timer.tick response pending.request.timeoutDuration? with
  | none => exact keeps_throw _
  | some ticks =>
    refine Keeps.ite ?_ (keeps_modify fun before => reaches_paused before _ _)
    refine Keeps.bind (keeps_modify fun before => reaches_paused before _ _) fun _ => ?_
    refine (reaches_call _ _ _ _).bind fun next => ?_
    exact reaches_advance next

theorem reaches_takeInput (response : InputResponse) :
    Keeps Reaches (takeInput response : Engine η Unit) := by
  refine keeps_get.bind fun machine => ?_
  cases machine.pending with
  | none => exact keeps_throw _
  | some pending =>
    dsimp only
    cases (pending.consume response.values).2 with
    | some value =>
      refine reaches_takePending.bind fun _ => ?_
      exact (reaches_of_quiet (quiet_noteClick value)).bind fun _ => reaches_finishRead _ _
    | none => exact reaches_passTime _ response

theorem reaches_start : Keeps Reaches (start : Engine η Unit) := by
  have captured (_ : Unit) : Keeps Reaches (do
      let top ← queryStack (·.top)
      modify fun machine =>
        { machine with initial := some (machine.capture top.pc), status := .running } :
      Engine η Unit) := by
    refine (keeps_queryStack _).bind fun top => ?_
    apply keeps_modify
    intro before
    have started : Reaches before { before with initial := some (before.capture top.pc) } :=
      .single (.started top.pc)
    exact started.tail (.entered .running)
  have described : Keeps Reaches (modify fun machine =>
      let memory := machine.story.memory.describeInterpreter machine.version machine.config
      { machine with story := { machine.story with memory }, stack := {} } : Engine η Unit) :=
    keeps_modify fun before => .single .described
  refine described.bind fun _ => ?_
  apply keeps_get_bind
  intro before
  split
  next =>
    exact (reaches_call _ _ _ _).bind (fun _ => captured ()) before
  next =>
    have began : Transition before _ :=
      .began (before.story.memory.headerWord .initialPC).toNat
    exact .head began (captured () _)

theorem reaches_step (input : Option InputResponse) :
    Keeps Reaches (step input : Engine η Unit) := by
  refine keeps_get.bind fun machine => ?_
  split
  · exact reaches_start
  · exact reaches_execute
  · split
    · exact reaches_takeInput _
    · exact keeps_throw _
  · exact keeps_pure ()

end Engine

namespace Machine

/-- The machine after steps with these inputs, whether or not they fail. -/
def afterSteps (machine : Machine η) (inputs : List (Option InputResponse)) : Machine η :=
  inputs.foldl (fun machine input => finalState (Engine.step input machine)) machine

theorem reaches_afterSteps (machine : Machine η) (inputs : List (Option InputResponse)) :
    Reaches machine (machine.afterSteps inputs) := by
  induction inputs generalizing machine with
  | nil => exact .refl
  | cons input rest ih => exact (Engine.reaches_step input machine).trans (ih _)

end Machine

end StoryMachine
