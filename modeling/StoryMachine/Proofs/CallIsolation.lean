import StoryMachine.Proofs.Activations
import StoryMachine.Proofs.DecodedInstructions
import StoryMachine.Proofs.Operands
import StoryMachine.Proofs.StaticMemory
import StoryMachine.Proofs.Stepping

/-! Activations are isolated from each other. A step works on the innermost frame; it enters at most
one routine, and when it leaves routines, the frame it comes back to gets no more than a result and
an address to go on at. -/

namespace StoryMachine

variable {η : Type}

/-- The frame at a level, where the outermost frame is at level 0. -/
def CallStack.level? (stack : CallStack) (level : Nat) : Option Frame :=
  stack.frames.reverse[level]?

inductive CallStack.SameBelow : CallStack → CallStack → Prop where
  | same (stack : CallStack) : SameBelow stack stack
  | changed (before after : Frame) (outer : List Frame) :
      SameBelow ⟨before :: outer⟩ ⟨after :: outer⟩

theorem CallStack.SameBelow.trans {first second third : CallStack} (here : SameBelow first second)
    (there : SameBelow second third) : SameBelow first third := by
  cases here with
  | same => exact there
  | changed before middle outer =>
    cases there with
    | same => exact .changed before middle outer
    | changed _ after _ => exact .changed before after outer

theorem CallStack.SameBelow.of_cons {old : Frame} {outer : List Frame} {stack : CallStack}
    (same : SameBelow ⟨old :: outer⟩ stack) : ∃ new, stack = ⟨new :: outer⟩ := by
  cases same with
  | same => exact ⟨old, rfl⟩
  | changed _ new _ => exact ⟨new, rfl⟩

theorem CallStack.TopChanged.sameBelow {before after : CallStack}
    (changed : TopChanged before after) : SameBelow before after := by
  cases changed with
  | same => exact .same before
  | changed _ outer => exact .changed _ _ outer

def Frame.StoredIn (result : Option Nat) (before after : Frame) : Prop :=
  after = before ∨
    ∃ number ∈ result, number < firstGlobal ∧ ∃ value, after = before.assigned number value

def Frame.ResumedWith (result : Option Nat) (before after : Frame) : Prop :=
  ∃ stored pc, before.StoredIn result stored ∧ after = { stored with pc }

def Instruction.result? (instruction : Instruction) : Option Nat :=
  instruction.store.map (·.target.toNat)

/-- The variable for the result of a frame that returns. An interrupt routine has none; what comes
back is the result of the read that it interrupted. -/
def Machine.result? (machine : Machine η) (frame : Frame) : Option Nat :=
  match frame.kind with
  | .function store => some store.target.toNat
  | .procedure => none
  | .interrupt => machine.pending.bind (·.instruction.result?)

theorem Frame.ResumedWith.refl (result : Option Nat) (frame : Frame) :
    frame.ResumedWith result frame :=
  ⟨frame, frame.pc, .inl rfl, rfl⟩

def Machine.SameStack (before after : Machine η) : Prop :=
  after.stack = before.stack

instance : IsPreorder (Machine η) Machine.SameStack where
  refl _ := rfl
  trans _ _ _ here there := there.trans here

/-- The last part of an instruction: it stores the result and goes on, or fails and stores
nothing. -/
def Concludes (instruction : Instruction) (action : Engine η Continuation) : Prop :=
  ∀ ⦃before : Machine η⦄ ⦃old : Frame⦄ ⦃outer : List Frame⦄, before.stack.frames = old :: outer →
    (∃ stored after, old.StoredIn instruction.result? stored ∧
      action before = .ok (.goto instruction.next) after ∧ after.stack = ⟨stored :: outer⟩) ∨
    ∃ error after, action before = .error error after ∧ after.stack = before.stack

theorem Keeps.concludes {first : Engine η α} {next : α → Engine η Continuation}
    {instruction : Instruction} (here : Keeps Machine.SameStack first)
    (there : ∀ value, Concludes instruction (next value)) :
    Concludes instruction (first >>= next) := by
  intro before old outer frames
  have same := here before
  cases ran : first before with
  | ok value middle =>
    rw [ran] at same
    have same : middle.stack = before.stack := same
    rw [bind_of_ok ran, ← same]
    exact there value (same ▸ frames)
  | error error after =>
    rw [ran] at same
    rw [bind_of_error ran]
    exact .inr ⟨error, after, rfl, same⟩

theorem Concludes.ite {condition : Prop} [Decidable condition]
    {first second : Engine η Continuation} {instruction : Instruction}
    (yes : Concludes instruction first) (no : Concludes instruction second) :
    Concludes instruction (if condition then first else second) := by
  split
  · exact yes
  · exact no

theorem Keeps.concludes_ite {condition : Prop} [Decidable condition] {first : Engine η Unit}
    {next : Unit → Engine η Continuation} {instruction : Instruction}
    (here : Keeps Machine.SameStack first) (there : ∀ value, Concludes instruction (next value)) :
    Concludes instruction (if condition then first >>= next else next ()) :=
  (here.concludes there).ite (there ())

namespace Engine

section Storing

variable {before : Machine η} {old : Frame} {outer : List Frame}

theorem writeVariable_cases (frames : before.stack.frames = old :: outer) (number : Nat)
    (value : UInt16) :
    (∃ stored after, old.StoredIn (some number) stored ∧
      writeVariable number value before = .ok () after ∧ after.stack = ⟨stored :: outer⟩) ∨
    ∃ error, writeVariable number value before = .error error before := by
  by_cases own : number < firstGlobal
  · rw [writeVariable_own frames own]
    split
    next => exact .inl ⟨_, _, .inr ⟨number, rfl, own, value, rfl⟩, rfl, rfl⟩
    next => exact .inr ⟨_, rfl⟩
  · have stack : before.stack = ⟨old :: outer⟩ := by rw [← frames]
    rw [writeVariable_global own]
    split
    next => exact .inl ⟨old, _, .inl rfl, rfl, stack⟩
    next => exact .inr ⟨_, rfl⟩

theorem concludes_proceed (instruction : Instruction) :
    Concludes instruction (proceed instruction : Engine η Continuation) := by
  intro before old outer frames
  have stack : before.stack = ⟨old :: outer⟩ := by rw [← frames]
  exact .inl ⟨old, before, .inl rfl, rfl, stack⟩

theorem concludes_finishWith (instruction : Instruction) (value : UInt16) :
    Concludes instruction (finishWith instruction value : Engine η Continuation) := by
  intro before old outer frames
  unfold finishWith storeResult
  cases stores : instruction.store with
  | none => exact concludes_proceed instruction frames
  | some store =>
    obtain ⟨stored, after, only, written, stack⟩ | ⟨error, failed⟩ :=
      writeVariable_cases frames store.target.toNat value
    · rw [bind_of_ok written]
      refine .inl ⟨stored, after, ?_, rfl, stack⟩
      rwa [Instruction.result?, stores]
    · rw [bind_of_error failed]
      exact .inr ⟨error, before, rfl, rfl⟩

theorem sameStack_update (change : Update α) :
    Keeps Machine.SameStack (update change : Engine η α) := by
  intro before
  cases ran : change before.story <;> simp only [update, ran] <;> rfl

end Storing

variable [Host η]

section Reading

theorem sameStack_notify (notice : Notice) :
    Keeps Machine.SameStack (notify notice : Engine η Unit) :=
  fun _ => rfl

theorem sameStack_report (error : Error) :
    Keeps Machine.SameStack (report error : Engine η Unit) := by
  apply keeps_get_bind
  intro before
  split
  next => rfl
  next =>
    split
    next => rfl
    next => rfl
    next => split <;> rfl
    next => rfl

theorem sameStack_tokenise (textBuffer parseBuffer dictionary : Nat) (skipUnknown : Bool) :
    Keeps Machine.SameStack
      (tokenise textBuffer parseBuffer dictionary skipUnknown : Engine η Unit) := by
  refine (keeps_query _).bind fun separators => ?_
  refine (keeps_query _).bind fun text => ?_
  refine (keeps_query _).bind fun capacity => ?_
  refine (sameStack_update _).bind fun _ => ?_
  exact (sameStack_report _).ite_bind fun _ => sameStack_update _

theorem concludes_finishLine (instruction : Instruction) (operands : Operands) (line : List Zscii)
    (terminator : Zscii) : Concludes instruction
      (finishLine instruction operands line terminator : Engine η Continuation) := by
  have stored (_ : Unit) : Concludes instruction (do
      if .v5 ≤ (← version) then
        storeResult instruction terminator
      proceed instruction : Engine η Continuation) := by
    refine keeps_version.concludes fun version => ?_
    exact (concludes_finishWith instruction terminator).ite (concludes_proceed instruction)
  refine (sameStack_update _).concludes fun _ => ?_
  refine Concludes.ite (keeps_get.concludes fun machine => ?_) (stored ())
  exact (sameStack_tokenise _ _ _ _).concludes stored

theorem concludes_deliver (pending : PendingRead) (terminator : Zscii) :
    Concludes pending.instruction (deliver pending terminator : Engine η Continuation) := by
  unfold deliver
  split
  next => exact concludes_finishWith _ terminator
  next =>
    refine keeps_get.concludes fun machine => ?_
    refine (sameStack_notify _).concludes_ite fun _ => ?_
    exact (sameStack_notify _).concludes_ite fun _ => concludes_finishLine _ _ _ terminator

theorem concludes_carryOn {instruction : Instruction} {action : Engine η Continuation}
    (here : Concludes instruction action) : Concludes instruction (carryOn instruction action) := by
  have degraded (error : Error) :
      Concludes instruction (degrade instruction error : Engine η Continuation) :=
    (sameStack_report error).concludes fun _ => concludes_finishWith instruction 0
  intro before old outer frames
  obtain ⟨stored, after, only, ran, stack⟩ | ⟨error, after, failed, same⟩ := here frames
  · exact .inl ⟨stored, after, only, tryCatch_of_ok ran, stack⟩
  · have caught : carryOn instruction action before = degrade instruction error after :=
      tryCatch_of_error failed
    rw [caught, ← same]
    exact degraded error (same ▸ frames)

end Reading

section Resuming

variable {before : Machine η} {old : Frame} {outer : List Frame}

theorem finishRead_resumed (frames : before.stack.frames = old :: outer) (pending : PendingRead)
    (terminator : Zscii) :
    ∃ resumed, old.ResumedWith pending.instruction.result? resumed ∧
      (finalState (finishRead pending terminator before)).stack = ⟨resumed :: outer⟩ := by
  have concludes : Concludes pending.instruction
      (carryOn pending.instruction (deliver pending terminator) : Engine η Continuation) :=
    concludes_carryOn (concludes_deliver pending terminator)
  have running : (modify fun machine => { machine with status := .running } : Engine η Unit)
      before = .ok () { before with status := .running } := rfl
  rw [finishRead, bind_of_ok running]
  have frames' : { before with status := .running }.stack.frames = old :: outer := frames
  obtain ⟨stored, after, only, ran, stack⟩ | ⟨error, after, failed, same⟩ := concludes frames'
  · have went : follow (.goto pending.instruction.next) after = .ok () _ :=
      setPc_of_active (congrArg CallStack.frames stack) pending.instruction.next
    rw [bind_of_ok ran, went]
    exact ⟨_, ⟨stored, _, only, rfl⟩, rfl⟩
  · rw [bind_of_error failed]
    have stack : before.stack = ⟨old :: outer⟩ := by rw [← frames]
    exact ⟨old, .refl _ old, same.trans stack⟩

/-- Execution comes back to an interrupted read, which ends or goes on waiting. -/
theorem advance_resumed (frames : before.stack.frames = old :: outer) (address : Nat)
    (value : UInt16) :
    ∃ resumed, old.ResumedWith (before.pending.bind (·.instruction.result?)) resumed ∧
      (finalState (advance (.resume address value) before)).stack = ⟨resumed :: outer⟩ := by
  have stack : before.stack = ⟨old :: outer⟩ := by rw [← frames]
  unfold advance
  dsimp only
  rw [get_bind]
  cases waits : before.pending with
  | none => exact ⟨old, .refl _ old, stack⟩
  | some pending =>
    dsimp only
    split
    next =>
      have taken : (modify fun machine => { machine with pending := none } : Engine η Unit) before =
          .ok () { before with pending := none } := rfl
      have frames' : { before with pending := none }.stack.frames = old :: outer := frames
      rw [bind_of_ok taken]
      exact finishRead_resumed frames' pending 0
    next => exact ⟨old, .refl _ old, stack⟩

end Resuming

end Engine

/-- What a step calls: the routine at an address with these arguments, once so many values are
popped. It is what the first operand names, or the interrupt routine of a read. -/
inductive Machine.Calls (machine : Machine η) : Nat → List UInt16 → Nat → Prop where
  | routine {instruction : Instruction} {operands : Operands} {after : Machine η}
      (executes : machine.Executes instruction)
      (evaluated : Engine.evaluate instruction 0 machine.counted = .ok operands after) :
      Calls machine (machine.story.format.routineAddress operands.first) operands.rest
        instruction.pops
  | interrupt {request : InputRequest} {pending : PendingRead}
      (reading : machine.status = .reading request) (waits : machine.pending = some pending) :
      Calls machine pending.request.routine [] 0

/-- The instruction that the next step executes, if it executes one, raises no error. -/
def Machine.Untroubled [Host η] (machine : Machine η) : Prop :=
  ∀ instruction, machine.Executes instruction →
    ∃ next after, Engine.dispatch instruction machine.counted = .ok next after

inductive Machine.StackAfter [Host η] (machine : Machine η) : CallStack → Prop where
  | stayed {stack : CallStack} (same : machine.stack.SameBelow stack) : StackAfter machine stack
  | entered {address popped : Nat} {arguments : List UInt16} {caller callee : Frame}
      {outer : List Frame} (calls : machine.Calls address arguments popped)
      (frames : machine.stack.frames = caller :: outer)
      (activates : machine.story.Activates address arguments callee) :
      StackAfter machine ⟨callee :: caller.popped popped :: outer⟩
  | ended {left : List Frame} {frame : Frame} (frames : machine.stack.frames = left ++ [frame]) :
      StackAfter machine ⟨[]⟩
  | returned {left outer : List Frame} {frame old resumed : Frame}
      (frames : machine.stack.frames = left ++ frame :: old :: outer)
      (only : machine.Untroubled → old.ResumedWith (machine.result? frame) resumed) :
      StackAfter machine ⟨resumed :: outer⟩

def Machine.SameBelow (before after : Machine η) : Prop :=
  before.stack.SameBelow after.stack

instance : IsPreorder (Machine η) Machine.SameBelow where
  refl machine := .same machine.stack
  trans _ _ _ here there := here.trans there

theorem Quiet.sameBelow [Host η] {before after : Machine η} (quiet : Quiet before after) :
    before.SameBelow after :=
  quiet.stack.sameBelow

theorem Machine.SameStack.sameBelow {before after : Machine η} (same : before.SameStack after) :
    before.SameBelow after := by
  unfold SameStack at same
  unfold SameBelow
  rw [same]
  exact .same before.stack

/-- Frames that are left or returned from were there before, and so were those outside of them. -/
theorem CallStack.TopChanged.frames_eq {before after : CallStack} {left outer : List Frame}
    {frame : Frame} (changed : TopChanged before after)
    (frames : after.frames = left ++ frame :: outer) :
    ∃ left frame', before.frames = left ++ frame' :: outer ∧ frame'.kind = frame.kind := by
  cases changed with
  | same => exact ⟨left, frame, frames, rfl⟩
  | @changed old new activation rest =>
    cases left with
    | nil =>
      cases frames
      exact ⟨[], old, rfl, activation.kind.symm⟩
    | cons first left =>
      cases frames
      exact ⟨old :: left, frame, rfl, rfl⟩

theorem Instruction.Decoded.arguments_eq {version : Version} {address : Nat}
    {instruction : Instruction} {operation : Operation} {operands : Operands}
    (decoded : instruction.Decoded version address)
    (means : instruction.opcode.operation? = some operation)
    (length : operands.values.length = instruction.operands.length) :
    operation.arguments operands = operands.rest := by
  have alone (plain : operation = .call1s ∨ operation = .call1n) : operands.rest = [] := by
    have few := decoded.short (decoded.opcode.short (by rw [means]; simpa using plain))
    rw [Operands.rest, List.drop_eq_nil_iff]
    omega
  cases operation with
  | call1s => exact (alone (.inl rfl)).symm
  | call1n => exact (alone (.inr rfl)).symm
  | _ => rfl

theorem PendingRead.consume_request (pending : PendingRead) (values : List InputValue) :
    (pending.consume values).1.request = pending.request := by
  induction values generalizing pending with
  | nil => rfl
  | cons value rest ih =>
    rw [consume]
    split
    next => rfl
    next => exact ih _

namespace Engine

variable [Host η] {machine before after : Machine η}

omit [Host η] in
theorem sameBelow_setPc (address : Nat) :
    Keeps Machine.SameBelow (setPc address : Engine η Unit) := by
  intro before
  cases frames : before.stack.frames with
  | nil =>
    simp only [setPc, updateTop, updateStack, CallStack.modifyTop, frames]
    exact .same before.stack
  | cons frame outer =>
    have stack : before.stack = ⟨frame :: outer⟩ := by rw [← frames]
    rw [setPc_of_active frames, Machine.SameBelow, stack]
    exact .changed frame _ outer

theorem sameBelow_recovery (instruction : Instruction) (error : Error) :
    Keeps Machine.SameBelow (degrade instruction error >>= advance : Engine η Unit) := by
  simp only [degrade, finishWith, proceed, bind_assoc, pure_bind]
  refine ((sameStack_report error).mono fun _ _ => (·.sameBelow)).bind fun _ => ?_
  refine ((quiet_storeResult instruction 0).mono fun _ _ => (·.sameBelow)).bind fun _ => ?_
  exact sameBelow_setPc instruction.next

theorem stackAfter_returned {left outer : List Frame} {frame other : Frame} {value : UInt16}
    {next : Continuation} (returned : Returned other value before (.ok next after))
    (frames : machine.stack.frames = left ++ frame :: outer) (kind : frame.kind = other.kind)
    (stack : before.stack = ⟨outer⟩) (pending : before.pending = machine.pending) :
    machine.StackAfter (finalState (advance next after)).stack := by
  have goes {old resumed : Frame} {rest : List Frame} {target : Machine η} (address : Nat)
      (frames : machine.stack.frames = left ++ frame :: old :: rest)
      (stack : target.stack.frames = resumed :: rest)
      (only : old.StoredIn (machine.result? frame) resumed) :
      machine.StackAfter (finalState (advance (.goto address) target)).stack := by
    have went : advance (.goto address) target = .ok () _ := setPc_of_active stack address
    rw [went]
    exact .returned frames fun _ => ⟨resumed, address, only, rfl⟩
  cases outer with
  | nil =>
    cases returned with
    | last => exact stack ▸ .ended frames
    | stored active | dropped active | resumed active => simp [CallStack.isEmpty, stack] at active
  | cons old rest =>
    have inside : before.stack.frames = old :: rest := by rw [stack]
    cases returned with
    | last empty => simp [CallStack.isEmpty, stack] at empty
    | @stored store _ _ function written =>
      have result : machine.result? frame = some store.target.toNat := by
        simp only [Machine.result?, kind, function]
      obtain ⟨kept, after', only, written', stack'⟩ | ⟨error, failed⟩ :=
        writeVariable_cases inside store.target.toNat value
      · rw [written] at written'
        cases written'
        exact goes _ frames (congrArg CallStack.frames stack') (result ▸ only)
      · rw [failed] at written
        cases written
    | dropped => exact goes _ frames inside (.inl rfl)
    | resumed _ interrupt =>
      have result : machine.result? frame = before.pending.bind (·.instruction.result?) := by
        simp only [Machine.result?, kind, interrupt, pending]
      obtain ⟨resumed, only, left⟩ := advance_resumed inside other.returnAddress value
      rw [left]
      exact .returned frames fun _ => result ▸ only

theorem stackAfter_finished {next : Continuation} (finished : Finished before (.ok next after))
    (stack : machine.stack.TopChanged before.stack) (pending : before.pending = machine.pending) :
    machine.StackAfter (finalState (advance next after)).stack := by
  cases finished with
  | went quiet address =>
    exact .stayed ((stack.trans quiet.stack).sameBelow.trans (sameBelow_setPc address after))
  | stopped quiet => exact .stayed (stack.trans quiet.stack).sameBelow
  | waits quiet => exact .stayed (stack.trans quiet.stack).sameBelow
  | returns quiet frames returned =>
    obtain ⟨left, frame, inside, kind⟩ := (stack.trans quiet.stack).frames_eq frames
    exact stackAfter_returned returned inside kind rfl (quiet.pending.trans pending)

/-- An instruction that fails may have left routines already. -/
theorem stackAfter_failed {error : Error} (finished : Finished before (.error error after))
    (troubled : ¬ machine.Untroubled) (stack : machine.stack.TopChanged before.stack)
    {final : Machine η} (same : after.SameBelow final) : machine.StackAfter final.stack := by
  cases finished with
  | failed quiet => exact .stayed ((stack.trans quiet.stack).sameBelow.trans same)
  | @returns middle quiet left outer frame frames value _ returned =>
    obtain ⟨left, frame, inside, kind⟩ := (stack.trans quiet.stack).frames_eq frames
    cases returned with
    | @unstored store _ _ active function failed =>
      cases outer with
      | nil => cases active
      | cons old rest =>
        have inside' : { middle with stack := ⟨old :: rest⟩ }.stack.frames = old :: rest := rfl
        obtain ⟨kept, after', only, written, stack'⟩ | ⟨error, failed'⟩ :=
          writeVariable_cases inside' store.target.toNat value
        · rw [failed] at written
          cases written
        · rw [failed] at failed'
          cases failed'
          obtain ⟨new, stack'⟩ := CallStack.SameBelow.of_cons same
          exact stack' ▸ .returned inside fun untroubled => absurd untroubled troubled

omit [Host η] in
theorem setPc_pushed (before : Machine η) (callee : Frame) :
    setPc callee.pc { before with stack := before.stack.push callee } =
      .ok () { before with stack := before.stack.push callee } :=
  setPc_of_active rfl callee.pc

theorem stackAfter_entered {address popped : Nat} {arguments : List UInt16} {caller : Frame}
    {outer : List Frame} {next : Continuation}
    (entered : Entered address arguments before (.ok next after))
    (calls : machine.Calls address arguments popped)
    (frames : machine.stack.frames = caller :: outer) (story : before.story = machine.story)
    (stack : before.stack = ⟨caller.popped popped :: outer⟩) :
    machine.StackAfter (finalState (advance next after)).stack := by
  cases entered with
  | skipped quiet address =>
    have same : machine.SameBelow before := by
      have whole : machine.stack = ⟨caller :: outer⟩ := by rw [← frames]
      rw [Machine.SameBelow, stack, whole]
      exact .changed caller _ outer
    exact .stayed ((same.trans quiet.sameBelow).trans (sameBelow_setPc address after))
  | @pushed start locals found kind returnAddress =>
    have went : advance (.goto start) { before with
        stack := before.stack.push
          { kind, address, pc := start, locals := passArguments arguments locals,
            argumentCount := UInt8.ofNat arguments.length, returnAddress } } = .ok () _ :=
      setPc_pushed before _
    rw [went, stack]
    exact .entered calls frames
      (Story.activates_of_routine (story ▸ found) arguments _ rfl rfl rfl)

theorem stackAfter_called {instruction : Instruction} {operation : Operation} {next : Continuation}
    (executes : machine.Executes instruction)
    (means : instruction.opcode.operation? = some operation)
    (called : Called instruction operation.arguments machine.counted (.ok next after)) :
    machine.StackAfter (finalState (advance next after)).stack := by
  cases called with
  | @evaluated required operands middle _ ran entered =>
    obtain ⟨caller, outer, frames, decoded⟩ := Machine.current_eq_ok executes.decoded
    obtain ⟨evaluated, rfl, length⟩ := evaluate_eq_ok ran
    have frames' : machine.counted.stack.frames = caller :: outer := frames
    rw [(Story.decoded_of_decodeInstruction decoded).arguments_eq means length,
      Machine.popped_of_active frames'] at entered
    exact stackAfter_entered entered (.routine executes evaluated) frames rfl rfl

theorem stackAfter_execute {instruction : Instruction} (executes : machine.Executes instruction)
    (onward : instruction.goesBack machine.version = false) (input : Option InputResponse) :
    machine.StackAfter (finalState (step input machine)).stack := by
  have onward : instruction.goesBack machine.counted.version = false := onward
  have went := onward_dispatch onward
  cases ran : dispatch instruction machine.counted with
  | ok next after =>
    rw [step_of_ok executes ran]
    rw [ran] at went
    cases went with
    | settled quiet finished => exact stackAfter_finished finished quiet.stack quiet.pending
    | called means called => exact stackAfter_called executes means called
  | error error failed =>
    rw [step_of_error executes ran]
    rw [ran] at went
    have troubled : ¬ machine.Untroubled := by
      intro untroubled
      obtain ⟨next, after, fine⟩ := untroubled instruction executes
      rw [ran] at fine
      cases fine
    have same := sameBelow_recovery instruction error failed
    cases went with
    | settled quiet finished => exact stackAfter_failed finished troubled quiet.stack same
    | called means called =>
      have quiet : Quiet machine.counted failed := by
        cases called with
        | unevaluated quiet => exact quiet
        | @evaluated required _ middle _ ran entered =>
          have silent := quiet_evaluate instruction required machine.counted
          rw [ran] at silent
          cases entered with
          | failed later => exact silent.trans later
      exact .stayed (quiet.stack.sameBelow.trans same)

theorem stackAfter_interrupt {routine : Nat} {frame : Frame} {outer : List Frame}
    (calls : machine.Calls routine [] 0) (frames : machine.stack.frames = frame :: outer)
    (before : Machine η) (story : before.story = machine.story)
    (stack : before.stack = machine.stack) (returnAddress : Nat) :
    machine.StackAfter
      (finalState ((call routine [] .interrupt returnAddress >>= advance) before)).stack := by
  have whole : before.stack = ⟨frame :: outer⟩ := by rw [stack, ← frames]
  have entered := entered_call routine [] .interrupt returnAddress before
  cases ran : call routine [] .interrupt returnAddress before with
  | ok next after =>
    rw [ran] at entered
    rw [bind_of_ok ran]
    exact stackAfter_entered entered calls frames story whole
  | error error after =>
    rw [ran] at entered
    rw [bind_of_error ran]
    cases entered with
    | failed quiet => exact .stayed (stack ▸ quiet.sameBelow)

omit [Host η] in
theorem sameStack_noteClick (value : InputValue) :
    Keeps Machine.SameStack (noteClick value : Engine η Unit) := by
  cases value with
  | mouseClick column row => exact (sameStack_update _).bind fun _ => sameStack_update _
  | character | special => exact keeps_pure ()

theorem stackAfter_passTime {frame : Frame} {outer : List Frame} {pending : PendingRead}
    (calls : machine.Calls pending.request.routine [] 0)
    (frames : machine.stack.frames = frame :: outer) (response : InputResponse) :
    machine.StackAfter (finalState (passTime pending response machine)).stack := by
  unfold passTime
  cases pending.timer.tick response pending.request.timeoutDuration? with
  | none => exact .stayed (.same machine.stack)
  | some ticks =>
    obtain ⟨fired, timer⟩ := ticks
    dsimp only
    split
    next =>
      exact stackAfter_interrupt calls frames
        { machine with pending := some { pending with timer }, status := .running } rfl rfl
        pending.instruction.address
    next => exact .stayed (.same machine.stack)

theorem stackAfter_takeInput {frame : Frame} {outer : List Frame} {request : InputRequest}
    (reading : machine.status = .reading request) (frames : machine.stack.frames = frame :: outer)
    (response : InputResponse) :
    machine.StackAfter (finalState (takeInput response machine)).stack := by
  have stack : machine.stack = ⟨frame :: outer⟩ := by rw [← frames]
  cases waits : machine.pending with
  | none =>
    rw [takeInput_of_unread waits]
    exact .stayed (.same machine.stack)
  | some pending =>
    cases ends : (pending.consume response.values).2 with
    | some value =>
      have clicked := sameStack_noteClick value { machine with pending := none }
      rw [takeInput_of_ended waits ends]
      cases noted : noteClick value { machine with pending := none } with
      | ok _ middle =>
        rw [noted] at clicked
        have same : middle.stack = ⟨frame :: outer⟩ := clicked.trans stack
        obtain ⟨resumed, -, final⟩ := finishRead_resumed (congrArg CallStack.frames same)
          (pending.consume response.values).1 value.zscii
        rw [bind_of_ok noted, final]
        exact .stayed (stack ▸ .changed frame resumed outer)
      | error error after =>
        rw [noted] at clicked
        rw [bind_of_error noted]
        exact .stayed clicked.sameBelow
    | none =>
      rw [takeInput_of_unended waits ends]
      refine stackAfter_passTime ?_ frames response
      rw [pending.consume_request response.values]
      exact .interrupt reading waits

theorem stackAfter_step
    (active : machine.status = .running ∨ ∃ request, machine.status = .reading request)
    (called : 0 < machine.stack.depth)
    (onward : ∀ instruction, machine.Executes instruction →
      instruction.goesBack machine.version = false) (input : Option InputResponse) :
    machine.StackAfter (finalState (step input machine)).stack := by
  obtain ⟨frame, outer, frames⟩ := List.exists_cons_of_length_pos called
  rcases active with running | ⟨request, reading⟩
  · cases decoded : machine.current with
    | ok instruction =>
      exact stackAfter_execute ⟨running, decoded⟩ (onward instruction ⟨running, decoded⟩) input
    | error error =>
      rw [step_of_undecoded running frames decoded]
      exact .stayed (.same machine.stack)
  · unfold step
    rw [get_bind]
    simp only [reading]
    cases input with
    | none => exact .stayed (.same machine.stack)
    | some response => exact stackAfter_takeInput reading frames response

end Engine

namespace CallStack

/-- Two stacks with the same outer frames agree on their levels. -/
theorem level?_eq {first second : CallStack} {left right outer : List Frame} {level : Nat}
    (here : first.frames = left ++ outer) (there : second.frames = right ++ outer)
    (inside : level < outer.length) : second.level? level = first.level? level := by
  have within : level < outer.reverse.length := by simpa using inside
  rw [level?, level?, here, there, List.reverse_append, List.reverse_append,
    List.getElem?_append_left within, List.getElem?_append_left within]

theorem SameBelow.depth_eq {before after : CallStack} (same : SameBelow before after) :
    after.depth = before.depth := by
  cases same with
  | same => rfl
  | changed => simp [depth]

theorem SameBelow.level?_eq {before after : CallStack} (same : SameBelow before after) {level : Nat}
    (below : level + 1 < before.depth) : after.level? level = before.level? level := by
  cases same with
  | same => rfl
  | changed old new outer =>
    have here : frames ⟨old :: outer⟩ = [old] ++ outer := rfl
    have there : frames ⟨new :: outer⟩ = [new] ++ outer := rfl
    exact CallStack.level?_eq here there (by simpa [depth] using below)

end CallStack

namespace Machine.StackAfter

variable [Host η] {machine : Machine η} {stack : CallStack}

theorem depth_le (after : machine.StackAfter stack) :
    stack.depth ≤ machine.stack.depth + 1 := by
  cases after with
  | stayed same => exact same.depth_eq ▸ Nat.le_succ _
  | entered calls frames activates => simp [CallStack.depth, frames]
  | ended => simp [CallStack.depth]
  | returned frames only =>
    simp only [CallStack.depth, frames, List.length_append, List.length_cons]
    omega

theorem level?_eq (after : machine.StackAfter stack) {level : Nat}
    (below : level + 1 < machine.stack.depth) (inside : level + 1 < stack.depth) :
    stack.level? level = machine.stack.level? level := by
  cases after with
  | stayed same => exact same.level?_eq below
  | @entered address popped arguments caller callee outer calls frames activates =>
    have here : machine.stack.frames = [caller] ++ outer := frames
    have there : CallStack.frames ⟨callee :: caller.popped popped :: outer⟩ =
        [callee, caller.popped popped] ++ outer := rfl
    exact CallStack.level?_eq here there (by simpa [CallStack.depth, frames] using below)
  | ended => cases inside
  | @returned left outer frame old resumed frames only =>
    have here : machine.stack.frames = (left ++ [frame, old]) ++ outer := by simp [frames]
    have there : CallStack.frames ⟨resumed :: outer⟩ = [resumed] ++ outer := rfl
    exact CallStack.level?_eq here there (by simpa [CallStack.depth] using inside)

end Machine.StackAfter

/-- Activations are isolated. Whatever the input, a step that does not go back to a snapshot leaves
every frame below the innermost ones alone. A call adds one frame, with its arguments and defaults,
and takes only operands off the stack of its caller. A return changes the frame that it comes back
to only in its address and its result. -/
theorem Engine.step_isolates_frames [Host η] {machine : Machine η}
    (active : machine.status = .running ∨ ∃ request, machine.status = .reading request)
    (called : 0 < machine.stack.depth)
    (onward : ∀ instruction, machine.Executes instruction →
      instruction.goesBack machine.version = false) (input : Option InputResponse) :
    let after := (finalState (step input machine)).stack
    after.depth ≤ machine.stack.depth + 1 ∧
    (∀ level, level + 1 < machine.stack.depth → level + 1 < after.depth →
      after.level? level = machine.stack.level? level) ∧
    (after.depth = machine.stack.depth + 1 →
      ∃ address arguments popped caller callee outer, machine.Calls address arguments popped ∧
        machine.stack.frames = caller :: outer ∧
        after.frames = callee :: caller.popped popped :: outer ∧
        machine.story.Activates address arguments callee) ∧
    (after.depth < machine.stack.depth → machine.Untroubled →
      ∀ resumed outer, after.frames = resumed :: outer →
        ∃ left frame old, machine.stack.frames = left ++ frame :: old :: outer ∧
          old.ResumedWith (machine.result? frame) resumed) := by
  have left := stackAfter_step active called onward input
  refine ⟨left.depth_le, fun level below inside => left.level?_eq below inside, ?_, ?_⟩
  · generalize (finalState (step input machine)).stack = after at left
    intro deeper
    cases left with
    | stayed same =>
      have depth := same.depth_eq
      omega
    | entered calls frames activates => exact ⟨_, _, _, _, _, _, calls, frames, rfl, activates⟩
    | ended => simp [CallStack.depth] at deeper
    | returned frames only =>
      simp only [CallStack.depth, frames, List.length_append, List.length_cons] at deeper
      omega
  · generalize (finalState (step input machine)).stack = after at left
    intro shallower untroubled resumed outer top
    cases left with
    | stayed same =>
      have depth := same.depth_eq
      omega
    | entered calls frames activates =>
      simp only [CallStack.depth, frames, List.length_cons] at shallower
      omega
    | ended => cases top
    | returned frames only =>
      cases top
      exact ⟨_, _, _, frames, only untroubled⟩

/-- A story of version 3 that calls a routine with 5 and the top of the stack. The routine has three
local variables. -/
def Engine.calling : Machine MemoryStore :=
  let machine := Machine.ofBytes .v3 [(0x40, 0xe0), (0x41, 0x1b), (0x43, 0x28), (0x44, 5),
    (0x46, 0x10), (0x50, 3), (0x51, 1), (0x52, 2), (0x53, 3), (0x54, 4), (0x55, 5), (0x56, 6)]
  { machine with stack := ⟨machine.stack.frames.map fun frame => { frame with stack := [7, 9] }⟩ }

theorem Engine.step_isolates_frames_calling :
    let after := (finalState (step none calling)).stack
    after.depth = 2 ∧ after.frames.map Frame.locals = [[5, 7, 0x506], []] ∧
      ∃ address arguments popped caller callee outer, calling.Calls address arguments popped ∧
        calling.stack.frames = caller :: outer ∧
        after.frames = callee :: caller.popped popped :: outer ∧
        calling.story.Activates address arguments callee := by
  have onward : ∀ instruction, calling.Executes instruction →
      instruction.goesBack calling.version = false := by
    intro instruction executes
    have checked : (calling.current.toOption.map (·.goesBack calling.version)) = some false := by
      decide +kernel
    rw [executes.decoded] at checked
    exact Option.some.inj checked
  obtain ⟨-, -, entered, -⟩ := step_isolates_frames (.inl rfl) (by decide) onward none
  have depth : (finalState (step none calling)).stack.depth = 2 := by decide +kernel
  exact ⟨depth, by decide +kernel, entered depth⟩

end StoryMachine
