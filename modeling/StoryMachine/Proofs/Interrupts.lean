import Mathlib.Data.List.Induction
import StoryMachine.Proofs.PendingReads
import StoryMachine.Proofs.Resuming

/-! Interrupt routines and the reads that they interrupt. A machine keeps one pending read, so a
routine finds the read that it interrupted as long as no other read waits in its place, and no
snapshot is restored that was taken in an interrupt routine: a snapshot has the frames of the
routine but not the read. -/

namespace StoryMachine

variable {η : Type}

namespace CallStack

def Interrupted (stack : CallStack) : Prop :=
  ∃ frame ∈ stack.frames, frame.kind = .interrupt

/-- Every interrupt routine of the second stack is one of the first, with the same frames outside
of it. -/
def Outlives (before after : CallStack) : Prop :=
  ∀ inner frame outer, after.frames = inner ++ frame :: outer → frame.kind = .interrupt →
    ∃ inner frame, before.frames = inner ++ frame :: outer ∧ frame.kind = .interrupt

namespace Outlives

variable {first second third stack : CallStack}

theorem refl (stack : CallStack) : Outlives stack stack :=
  fun inner frame _ frames interrupt => ⟨inner, frame, frames, interrupt⟩

theorem trans (here : Outlives first second) (there : Outlives second third) :
    Outlives first third := by
  intro inner frame outer frames interrupt
  obtain ⟨inner, frame, frames, interrupt⟩ := there inner frame outer frames interrupt
  exact here inner frame outer frames interrupt

theorem interrupted (outlives : Outlives first second) (interrupted : second.Interrupted) :
    first.Interrupted := by
  obtain ⟨frame, member, interrupt⟩ := interrupted
  obtain ⟨inner, outer, frames⟩ := List.append_of_mem member
  obtain ⟨inner, frame, frames, interrupt⟩ := outlives inner frame outer frames interrupt
  exact ⟨frame, frames ▸ List.mem_append_right _ List.mem_cons_self, interrupt⟩

theorem of_topChanged (changed : first.TopChanged second) : Outlives first second := by
  intro inner frame outer frames interrupt
  obtain ⟨left, old, frames, kind⟩ := changed.frames_eq frames
  exact ⟨left, old, frames, kind.trans interrupt⟩

/-- A frame of the same kind may replace the innermost one. -/
theorem replace (old new : Frame) (kind : new.kind = old.kind) (outer : List Frame) :
    Outlives ⟨old :: outer⟩ ⟨new :: outer⟩ := by
  intro inner frame rest frames interrupt
  cases inner with
  | nil =>
    cases frames
    exact ⟨[], old, rfl, kind.symm.trans interrupt⟩
  | cons top inner =>
    cases frames
    exact ⟨old :: inner, frame, rfl, interrupt⟩

theorem push {frame : Frame} (kind : frame.kind ≠ .interrupt) (stack : CallStack) :
    Outlives stack (stack.push frame) := by
  intro inner other outer frames interrupt
  cases inner with
  | nil =>
    cases frames
    exact absurd interrupt kind
  | cons top inner =>
    rw [CallStack.push, List.cons_append, List.cons.injEq] at frames
    exact ⟨inner, other, frames.2, interrupt⟩

theorem drop (left : List Frame) {outer : List Frame} (frames : stack.frames = left ++ outer) :
    Outlives stack ⟨outer⟩ := by
  intro inner frame rest split interrupt
  refine ⟨left ++ inner, frame, ?_, interrupt⟩
  rw [frames, show outer = inner ++ frame :: rest from split, List.append_assoc]

end Outlives

end CallStack

open CallStack (Interrupted Outlives)

theorem CallStack.Interrupted.of_mem {stack : CallStack} {inner outer : List Frame} {frame : Frame}
    (frames : stack.frames = inner ++ frame :: outer) (interrupt : frame.kind = .interrupt) :
    stack.Interrupted :=
  ⟨frame, frames ▸ List.mem_append_right _ List.mem_cons_self, interrupt⟩

theorem Engine.outlives_setPc (address : Nat) (before : Machine η) :
    Outlives before.stack (finalState (setPc address before)).stack := by
  obtain ⟨-, stuck⟩ | ⟨frame, outer, frames, went⟩ := setPc_cases address before
  · rw [stuck]
    exact .refl _
  · have stack : before.stack = ⟨frame :: outer⟩ := by rw [← frames]
    rw [went, stack]
    exact .replace frame { frame with pc := address } rfl outer

/-- If an interrupt routine is under way afterwards, it was before, and the read is the same. -/
def Machine.ReadKept (before after : Machine η) : Prop :=
  after.stack.Interrupted → Outlives before.stack after.stack ∧ after.pending = before.pending

namespace Machine.ReadKept

variable {first second third : Machine η}

theorem trans (here : ReadKept first second) (there : ReadKept second third) :
    ReadKept first third := by
  intro interrupted
  obtain ⟨later, pending⟩ := there interrupted
  obtain ⟨earlier, same⟩ := here (later.interrupted interrupted)
  exact ⟨earlier.trans later, pending.trans same⟩

theorem of_outlives (outlives : Outlives first.stack second.stack)
    (pending : second.pending = first.pending) : ReadKept first second :=
  fun _ => ⟨outlives, pending⟩

/-- Where no interrupt routine is under way, none is afterwards. -/
theorem of_uninterrupted (kept : ReadKept second third)
    (uninterrupted : ¬ second.stack.Interrupted) : ReadKept first third := by
  intro interrupted
  obtain ⟨outlives, -⟩ := kept interrupted
  exact absurd (outlives.interrupted interrupted) uninterrupted

theorem quiet [Host η] (quiet : Quiet first second) : ReadKept first second :=
  of_outlives (.of_topChanged quiet.stack) quiet.pending

theorem setPc (address : Nat) (before : Machine η) :
    ReadKept before (finalState (Engine.setPc address before)) :=
  of_outlives (Engine.outlives_setPc address before) (Engine.pending_setPc address before)

end Machine.ReadKept

def ComesBack : EStateM.Result Error (Machine η) Continuation → Prop
  | .ok (.resume _ _) _ => True
  | _ => False

/-- What an instruction does about interrupt routines and the read: it keeps the read, has a new
one wait, or comes back to the read from a routine. -/
inductive InterruptsKept (before : Machine η) :
    EStateM.Result Error (Machine η) Continuation → Prop where
  | kept {result : EStateM.Result Error (Machine η) Continuation}
      (read : before.ReadKept (finalState result)) (stays : ¬ ComesBack result) :
      InterruptsKept before result
  | awaits (request : InputRequest) (after : Machine η) :
      InterruptsKept before (.ok (.await request) after)
  | resumes {address : Nat} {value : UInt16} {after : Machine η} {inner : List Frame}
      {frame : Frame} (frames : before.stack.frames = inner ++ frame :: after.stack.frames)
      (interrupt : frame.kind = .interrupt) (pending : after.pending = before.pending) :
      InterruptsKept before (.ok (.resume address value) after)

namespace InterruptsKept

variable {before middle : Machine η} {result : EStateM.Result Error (Machine η) Continuation}

theorem of_outlives (kept : InterruptsKept middle result)
    (outlives : Outlives before.stack middle.stack) (pending : middle.pending = before.pending) :
    InterruptsKept before result := by
  cases kept with
  | kept read stays => exact .kept (.trans (.of_outlives outlives pending) read) stays
  | awaits request after => exact .awaits request after
  | resumes frames interrupt same =>
    obtain ⟨inner, frame, frames, interrupt⟩ := outlives _ _ _ frames interrupt
    exact .resumes frames interrupt (same.trans pending)

theorem of_uninterrupted (kept : InterruptsKept middle result)
    (uninterrupted : ¬ middle.stack.Interrupted) : InterruptsKept before result := by
  cases kept with
  | kept read stays => exact .kept (read.of_uninterrupted uninterrupted) stays
  | awaits request after => exact .awaits request after
  | resumes frames interrupt => exact absurd (.of_mem frames interrupt) uninterrupted

end InterruptsKept

variable [Host η]

theorem Quiet.interruptsKept {before middle : Machine η}
    {result : EStateM.Result Error (Machine η) Continuation} (quiet : Quiet before middle)
    (kept : InterruptsKept middle result) : InterruptsKept before result :=
  kept.of_outlives (.of_topChanged quiet.stack) quiet.pending

theorem Returned.interruptsKept {before after : Machine η} {inner outer : List Frame}
    {frame : Frame} {value : UInt16} {result : EStateM.Result Error (Machine η) Continuation}
    (returned : Returned frame value after result)
    (frames : before.stack.frames = inner ++ frame :: outer) (stack : after.stack = ⟨outer⟩)
    (pending : after.pending = before.pending) : InterruptsKept before result := by
  have dropped : before.ReadKept after := by
    refine .of_outlives ?_ pending
    rw [stack]
    apply CallStack.Outlives.drop (inner ++ [frame])
    rw [frames, List.append_assoc, List.singleton_append]
  cases returned with
  | last => exact .kept dropped id
  | dropped => exact .kept dropped id
  | @stored store final active kind written =>
    have quiet := Engine.quiet_writeVariable store.target.toNat value after
    rw [written] at quiet
    exact .kept (dropped.trans (.quiet quiet)) id
  | @unstored store error final active kind failed =>
    have quiet := Engine.quiet_writeVariable store.target.toNat value after
    rw [failed] at quiet
    exact .kept (dropped.trans (.quiet quiet)) id
  | resumed active kind =>
    rw [← show after.stack.frames = outer by rw [stack]] at frames
    exact .resumes frames kind pending

theorem Finished.interruptsKept {before : Machine η}
    {result : EStateM.Result Error (Machine η) Continuation} (finished : Finished before result) :
    InterruptsKept before result := by
  cases finished with
  | went quiet | failed quiet | stopped quiet => exact .kept (.quiet quiet) id
  | waits quiet pending => exact .awaits pending.request _
  | returns quiet frames returned =>
    exact quiet.interruptsKept (returned.interruptsKept frames rfl rfl)

theorem Keeps.interruptsKept {first : Engine η α} {next : α → Engine η Continuation}
    {before : Machine η} (here : Keeps Quiet first)
    (there : ∀ value middle, first before = .ok value middle →
      InterruptsKept middle (next value middle)) :
    InterruptsKept before ((first >>= next) before) := by
  have quiet := here before
  cases ran : first before with
  | ok value middle =>
    rw [ran] at quiet
    rw [bind_of_ok ran]
    exact quiet.interruptsKept (there value middle ran)
  | error error after =>
    rw [ran] at quiet
    rw [bind_of_error ran]
    exact .kept (.quiet quiet) id

/-- A read waits in an interrupt routine, or a snapshot is restored that was taken in one. -/
inductive Machine.Disturbed (machine : Machine η) : Prop where
  | nested {request : InputRequest} (reading : machine.status = .reading request)
      (interrupted : machine.stack.Interrupted)
  | restored {instruction : Instruction} {snapshot : Snapshot}
      (executes : machine.Executes instruction) (gets : machine.GetsBack instruction snapshot)
      (fits : snapshot.Fits machine.story.memory) (interrupted : snapshot.stack.Interrupted)

namespace Engine

variable {before : Machine η}

/-- A call by an instruction enters no interrupt routine. -/
theorem interruptsKept_call (address : Nat) (arguments : List UInt16) {kind : RoutineKind}
    (plain : kind ≠ .interrupt) (returnAddress : Nat) (before : Machine η) :
    InterruptsKept before (call address arguments kind returnAddress before) := by
  unfold call
  split
  next =>
    cases kind with
    | function store =>
      refine (quiet_writeVariable store.target.toNat 0).interruptsKept fun value middle _ => ?_
      exact .kept (.of_outlives (.refl _) rfl) id
    | procedure => exact .kept (.of_outlives (.refl _) rfl) id
    | interrupt => exact absurd rfl plain
  next =>
    refine (keeps_query _).interruptsKept fun routine middle _ => ?_
    exact .kept (.of_outlives (.push plain middle.stack) rfl) id

theorem interruptsKept_callPacked (instruction : Instruction) (packed : UInt16)
    (arguments : List UInt16) (before : Machine η) :
    InterruptsKept before (callPacked instruction packed arguments before) := by
  have plain : instruction.store.elim RoutineKind.procedure RoutineKind.function ≠ .interrupt := by
    cases instruction.store <;> nofun
  exact interruptsKept_call _ arguments plain instruction.next before

theorem interruptsKept_calls (instruction : Instruction) {operation : Operation}
    (enters : operation.calls = true) (before : Machine η) :
    InterruptsKept before (perform instruction operation before) := by
  have routine (required : Nat) :
      InterruptsKept before (callRoutine required instruction before) :=
    (quiet_evaluate instruction required).interruptsKept fun operands middle _ =>
      interruptsKept_callPacked instruction operands.first operands.rest middle
  have plain : InterruptsKept before (callPlain instruction before) :=
    (quiet_evaluate instruction 1).interruptsKept fun operands middle _ =>
      interruptsKept_callPacked instruction operands.first [] middle
  cases operation with
  | call1s | call1n => exact plain
  | call2s | call2n => exact routine 2
  | callVs | callVs2 | callVn | callVn2 => exact routine 1
  | _ => cases enters

/-- Going back to a stack without interrupt routines, or to none, disturbs nothing. -/
theorem interruptsKept_back {first : Engine η α} {next : α → Engine η Continuation}
    (ends : ∀ value, Finishes (next value))
    (went : ∃ value after, first before = .ok value after ∧
      ((after.stack = before.stack ∧ after.pending = before.pending) ∨
        ¬ after.stack.Interrupted)) :
    InterruptsKept before ((first >>= next) before) := by
  obtain ⟨value, after, ran, ⟨stack, pending⟩ | uninterrupted⟩ := went
  · rw [bind_of_ok ran]
    exact (ends value after).interruptsKept.of_outlives (stack ▸ .refl _) pending
  · rw [bind_of_ok ran]
    exact (ends value after).interruptsKept.of_uninterrupted uninterrupted

theorem interruptsKept_restoreGame {next : Option Nat → Engine η Continuation}
    (ends : ∀ value, Finishes (next value))
    (calm : ∀ snapshot, (SaveStore.restore before.host).1 = some snapshot →
      snapshot.Fits before.story.memory → ¬ snapshot.stack.Interrupted) :
    InterruptsKept before ((restoreGame >>= next) before) := by
  apply interruptsKept_back ends
  obtain ⟨value, after, ran, ⟨-, rfl⟩ | ⟨snapshot, -, found, went⟩⟩ := restoreGame_cases before
  · exact ⟨value, _, ran, .inl ⟨rfl, rfl⟩⟩
  · obtain ⟨fits, memory, -, rfl⟩ := Machine.restore?_eq_some went
    exact ⟨value, _, ran, .inr (calm snapshot found fits)⟩

theorem interruptsKept_restoreUndo {next : Option Nat → Engine η Continuation}
    (ends : ∀ value, Finishes (next value))
    (calm : ∀ snapshot history, before.undo.pop? = some (snapshot, history) →
      snapshot.Fits before.story.memory → ¬ snapshot.stack.Interrupted) :
    InterruptsKept before ((restoreUndo >>= next) before) := by
  apply interruptsKept_back ends
  obtain ⟨value, after, ran, rfl | ⟨snapshot, undo, popped, rfl | went⟩⟩ := restoreUndo_cases before
  · exact ⟨value, _, ran, .inl ⟨rfl, rfl⟩⟩
  · exact ⟨value, _, ran, .inl ⟨rfl, rfl⟩⟩
  · obtain ⟨fits, memory, -, rfl⟩ := Machine.restore?_eq_some went
    exact ⟨value, _, ran, .inr (calm snapshot undo popped fits)⟩

theorem interruptsKept_restart
    (calm : ∀ snapshot, before.initial = some snapshot → ¬ snapshot.stack.Interrupted) :
    InterruptsKept before (restart before) := by
  obtain finished | ⟨snapshot, memory, initial, replaced, finished⟩ := restart_cases before
  · exact finished.interruptsKept
  · exact finished.interruptsKept.of_uninterrupted (calm snapshot initial)

/-- An instruction that does not go back to a snapshot loses no interrupt routine's read. -/
theorem interruptsKept_onward {instruction : Instruction}
    (onward : instruction.goesBack before.version = false) :
    InterruptsKept before (dispatch instruction before) := by
  cases means : instruction.opcode.operation? with
  | none =>
    unfold dispatch
    simp only [means]
    exact (finishes_throw _ _).interruptsKept
  | some operation =>
    rw [dispatch_of_known means]
    split
    next available =>
      rw [Instruction.goesBack, means, Option.any_some, available, Bool.true_and] at onward
      cases used : operation.usesSnapshots with
      | false =>
        cases enters : operation.calls with
        | false => exact (finishes_perform instruction operation used enters _).interruptsKept
        | true => exact interruptsKept_calls instruction enters _
      | true =>
        cases operation with
        | save =>
          exact interruptsKept_back (finishes_finishSave instruction) ⟨_, _, rfl, .inl ⟨rfl, rfl⟩⟩
        | saveUndo =>
          exact interruptsKept_back (fun _ => finishes_finishWith instruction 1)
            ⟨_, _, rfl, .inl ⟨rfl, rfl⟩⟩
        | saveExt =>
          refine (quiet_evaluate instruction 0).interruptsKept fun _ middle _ => ?_
          exact interruptsKept_back (fun success => finishes_finishWith instruction _)
            ⟨_, _, rfl, .inl ⟨rfl, rfl⟩⟩
        | restore | restoreExt | restoreUndo | restart => cases onward
        | _ => cases used
    next => exact .kept (.of_outlives (.refl _) rfl) id

/-- An undisturbed instruction loses no interrupt routine's read. -/
theorem interruptsKept_dispatch {machine : Machine η} {instruction : Instruction}
    (executes : machine.Executes instruction) (calm : ¬ machine.Disturbed)
    (initial : ∀ snapshot, machine.initial = some snapshot → ¬ snapshot.stack.Interrupted) :
    InterruptsKept machine (dispatch instruction machine.counted) := by
  have counted {result : EStateM.Result Error (Machine η) Continuation}
      (kept : InterruptsKept machine.counted result) : InterruptsKept machine result :=
    kept.of_outlives (.refl _) rfl
  have back {snapshot : Snapshot} (gets : machine.GetsBack instruction snapshot)
      (fits : snapshot.Fits machine.story.memory) : ¬ snapshot.stack.Interrupted :=
    fun interrupted => calm (.restored executes gets fits interrupted)
  apply counted
  cases goes : instruction.goesBack machine.counted.version with
  | false => exact interruptsKept_onward goes
  | true =>
    obtain ⟨operation, means, available, undoes⟩ : ∃ operation,
        instruction.opcode.operation? = some operation ∧
          operation.isAvailable machine.counted.version = true ∧ operation.goesBack = true := by
      simpa [Instruction.goesBack, Option.any_eq_true] using goes
    rw [dispatch_of_available _ means available]
    cases operation with
    | restore =>
      refine interruptsKept_restoreGame (fun found => ?_) fun snapshot found fits => ?_
      · split
        · exact finishes_resumeAfter _
        · exact finishes_finishSave instruction false
      · exact back (.game means available found) fits
    | restoreExt =>
      refine (quiet_evaluate instruction 0).interruptsKept fun operands middle ran => ?_
      refine interruptsKept_restoreGame (fun found => ?_) fun snapshot found fits => ?_
      · split
        · exact finishes_resumeAfter _
        · exact finishes_finishWith instruction 0
      · obtain ⟨-, rfl, -⟩ := evaluate_eq_ok ran
        exact back (.extended means ran found) fits
    | restoreUndo =>
      refine interruptsKept_restoreUndo (fun found => ?_) fun snapshot history popped fits => ?_
      · split
        · exact finishes_resumeAfter _
        · exact finishes_finishWith instruction 0
      · exact back (.undo means popped) fits
    | restart => exact interruptsKept_restart initial
    | _ => cases undoes

end Engine

theorem Completed.outlives {pending : PendingRead} {before : Machine η}
    {result : EStateM.Result Error (Machine η) Unit} (completed : Completed pending before result) :
    Outlives before.stack (finalState result).stack := by
  cases completed with
  | stopped quiet => exact .of_topChanged quiet.stack
  | went quiet =>
    exact Outlives.trans (.of_topChanged quiet.stack) (Engine.outlives_setPc _ _)

theorem Completed.pending_eq {pending : PendingRead} {before : Machine η}
    {result : EStateM.Result Error (Machine η) Unit} (completed : Completed pending before result) :
    (finalState result).pending = before.pending := by
  cases completed with
  | stopped quiet => exact quiet.pending
  | went quiet => exact (Engine.pending_setPc _ _).trans quiet.pending

theorem Resumed.outlives {before : Machine η} {result : EStateM.Result Error (Machine η) Unit}
    (resumed : Resumed before result) : Outlives before.stack (finalState result).stack := by
  cases resumed with
  | missing | waiting => exact .refl _
  | ended waits completed => exact completed.outlives

/-- An undisturbed step of a running machine that has one interrupt routine at most keeps the read
as long as the routine is under way. -/
theorem Machine.Stepped.readKept {machine : Machine η}
    {result : EStateM.Result Error (Machine η) Unit} (stepped : machine.Stepped result)
    (calm : ¬ machine.Disturbed) (settled : ¬ (finalState result).Disturbed)
    (initial : ∀ snapshot, machine.initial = some snapshot → ¬ snapshot.stack.Interrupted)
    (single : ∀ inner frame outer, machine.stack.frames = inner ++ frame :: outer →
      frame.kind = .interrupt → ¬ CallStack.Interrupted ⟨outer⟩) :
    machine.ReadKept (finalState result) := by
  cases stepped with
  | idle | undecoded => exact .of_outlives (.refl _) rfl
  | stopped executes failed quiet =>
    have kept := Engine.interruptsKept_dispatch executes calm initial
    rw [failed] at kept
    cases kept with
    | kept read => exact read.trans (.quiet quiet)
  | passed executes failed quiet =>
    have kept := Engine.interruptsKept_dispatch executes calm initial
    rw [failed] at kept
    cases kept with
    | kept read => exact (read.trans (.quiet quiet)).trans (.setPc _ _)
  | @advanced instruction next after executes ran =>
    have kept := Engine.interruptsKept_dispatch executes calm initial
    rw [ran] at kept
    cases kept with
    | kept read stays =>
      cases next with
      | goto address => exact read.trans (.setPc address after)
      | await | quit => exact read
      | resume => exact absurd trivial stays
    | awaits => exact fun interrupted => absurd (.nested rfl interrupted) settled
    | @resumes address value _ inner frame frames interrupt pending =>
      intro interrupted
      have left := (Engine.resumed_advance address value after).outlives.interrupted interrupted
      exact absurd left (single inner frame _ frames interrupt)

/-- A response had the interrupt routine of the read called that it was for, and that read is
pending. -/
structure Machine.InterruptedBy (asked : Machine η) (response : InputResponse)
    (reached : Machine η) : Prop where
  entered : ∃ frame, frame.kind = .interrupt ∧
    (finalState (Engine.step (some response) asked)).stack = asked.stack.push frame
  pending : ∃ read kept, asked.status = .reading read.request ∧ asked.pending = some read ∧
    reached.pending = some kept ∧ read.SameRead kept ∧ kept.request = read.request

/-- A response to a read enters no routine, or the interrupt routine of the read. -/
theorem Machine.Answered.outlives_or_interrupted {machine : Machine η} {request : InputRequest}
    {response : InputResponse} (reads : machine.HasRead ∨ machine.Stranded)
    (reading : machine.status = .reading request)
    (answered : machine.Answered response (Engine.step (some response) machine)) :
    Outlives machine.stack (finalState (Engine.step (some response) machine)).stack ∨
      machine.InterruptedBy response (finalState (Engine.step (some response) machine)) := by
  generalize ran : Engine.step (some response) machine = result at answered
  cases answered with
  | missing | uncalled | overflowed | waiting => exact .inl (.refl _)
  | @lost pending value error after waits ends failed =>
    have quiet := Engine.quiet_noteClick value { machine with pending := none }
    rw [failed] at quiet
    exact .inl (.of_topChanged quiet.stack)
  | @completed pending value middle _ waits ends noted completed =>
    have quiet := Engine.quiet_noteClick value { machine with pending := none }
    rw [noted] at quiet
    exact .inl (Outlives.trans (.of_topChanged quiet.stack) completed.outlives)
  | @interrupted pending renewed start locals waits unended same asked found =>
    obtain kept | stranded := reads
    · obtain ⟨read, stored, request⟩ := kept.read _ reading
      rw [waits, Option.some.injEq] at stored
      subst stored
      let frame : Frame :=
        { kind := .interrupt, address := renewed.request.routine, pc := start,
          locals := passArguments [] locals, argumentCount := 0,
          returnAddress := renewed.instruction.address }
      have entered : (finalState (Engine.step (some response) machine)).stack =
          machine.stack.push frame := by
        rw [ran]
        rfl
      exact .inr ⟨⟨frame, rfl, entered⟩, pending, renewed, reading.trans (request ▸ rfl), waits,
        rfl, same, asked⟩
    · rw [stranded.gone] at waits
      cases waits

/-- An undisturbed step keeps the read of an interrupt routine, or it is the one that enters the
routine. -/
theorem Machine.readKept_or_interrupted {machine : Machine η} {input : Option InputResponse}
    (reads : machine.HasRead ∨ machine.Stranded) (calm : ¬ machine.Disturbed)
    (settled : ¬ (finalState (Engine.step input machine)).Disturbed)
    (initial : ∀ snapshot, machine.initial = some snapshot → ¬ snapshot.stack.Interrupted)
    (single : ∀ inner frame outer, machine.stack.frames = inner ++ frame :: outer →
      frame.kind = .interrupt → ¬ CallStack.Interrupted ⟨outer⟩) :
    machine.ReadKept (finalState (Engine.step input machine)) ∨
      ¬ machine.stack.Interrupted ∧ ∃ response, input = some response ∧
        machine.InterruptedBy response (finalState (Engine.step input machine)) := by
  cases status : machine.status with
  | starting =>
    obtain kept | stranded := reads
    · exact absurd status kept.begun
    · obtain ⟨request, reading⟩ := stranded.reading
      rw [status] at reading
      cases reading
  | running => exact .inl ((Engine.stepped_step status input).readKept calm settled initial single)
  | halted =>
    rw [Engine.step_of_halted status]
    exact .inl (.of_outlives (.refl _) rfl)
  | reading request =>
    have uninterrupted : ¬ machine.stack.Interrupted :=
      fun interrupted => calm (.nested status interrupted)
    cases input with
    | none =>
      rw [Engine.step_of_no_response status]
      exact .inl (.of_outlives (.refl _) rfl)
    | some response =>
      have answered := Engine.answered_takeInput machine response
      rw [← Engine.step_of_response status] at answered
      obtain outlives | entered := answered.outlives_or_interrupted reads status
      · exact .inl fun interrupted => absurd (outlives.interrupted interrupted) uninterrupted
      · exact .inr ⟨uninterrupted, response, rfl, entered⟩

section Runs

variable {fresh started : Machine η}

theorem Machine.initial_afterSteps (begun : Engine.start fresh = .ok () started)
    (inputs : List (Option InputResponse)) :
    (started.afterSteps inputs).initial = started.initial := by
  induction inputs using List.reverseRecOn with
  | nil => rfl
  | append_singleton inputs input ih =>
    rw [afterSteps_concat, Engine.initial_step (status_ne_starting begun inputs), ih]

omit [Host η] in
theorem Machine.Begun.uninterrupted (begun : fresh.Begun started) :
    ¬ started.stack.Interrupted ∧
      ∀ snapshot, started.initial = some snapshot → ¬ snapshot.stack.Interrupted := by
  obtain ⟨frame, frames, procedure, -, -, initial⟩ := begun.frames
  have uninterrupted : ¬ started.stack.Interrupted := by
    rintro ⟨other, member, interrupt⟩
    rw [frames, List.mem_singleton] at member
    rw [member, procedure] at interrupt
    cases interrupt
  refine ⟨uninterrupted, fun snapshot found => ?_⟩
  rw [initial, Option.some.injEq] at found
  rw [← found]
  exact uninterrupted

/-- Along an undisturbed run, each interrupt routine under way was entered by some response, from
the frames outside of it, and the read that it interrupted is pending still. -/
theorem Machine.interruptedBy_afterSteps (begun : Engine.start fresh = .ok () started)
    (inputs : List (Option InputResponse))
    (calm : ∀ earlier, earlier <+: inputs → ¬ (started.afterSteps earlier).Disturbed)
    (inner : List Frame) (frame : Frame) (outer : List Frame)
    (frames : (started.afterSteps inputs).stack.frames = inner ++ frame :: outer)
    (interrupt : frame.kind = .interrupt) :
    ∃ earlier response later, inputs = earlier ++ some response :: later ∧
      (started.afterSteps earlier).stack.frames = outer ∧
      (started.afterSteps earlier).InterruptedBy response (started.afterSteps inputs) := by
  obtain ⟨uninterrupted, first⟩ := (Engine.begun_start begun).uninterrupted
  induction inputs using List.reverseRecOn generalizing inner frame outer with
  | nil => exact absurd (.of_mem frames interrupt) uninterrupted
  | append_singleton inputs input ih =>
    have calmBefore : ∀ earlier, earlier <+: inputs → ¬ (started.afterSteps earlier).Disturbed :=
      fun earlier isPrefix => calm earlier (isPrefix.trans (List.prefix_append inputs [input]))
    -- Only reads are interrupted, and where one waits no interrupt routine is under way.
    have single : ∀ inner frame outer,
        (started.afterSteps inputs).stack.frames = inner ++ frame :: outer →
          frame.kind = .interrupt → ¬ CallStack.Interrupted ⟨outer⟩ := by
      intro inner frame outer frames interrupt interrupted
      obtain ⟨earlier, response, later, split, stack, -, read, kept, reading, -⟩ :=
        ih calmBefore inner frame outer frames interrupt
      subst outer
      exact calmBefore earlier ⟨some response :: later, split.symm⟩ (.nested reading interrupted)
    have initial := Machine.initial_afterSteps begun inputs
    have settled := calm (inputs ++ [input]) (List.prefix_refl _)
    rw [afterSteps_concat] at frames settled ⊢
    obtain kept | ⟨alone, response, rfl, entered⟩ := readKept_or_interrupted
      (hasRead_or_stranded begun inputs) (calmBefore inputs (List.prefix_refl inputs)) settled
      (initial ▸ first) single
    · obtain ⟨outlives, pending⟩ := kept (.of_mem frames interrupt)
      obtain ⟨inner, frame, frames, interrupt⟩ := outlives inner frame outer frames interrupt
      obtain ⟨earlier, response, later, rfl, stack, entered, read, stored, reading, waits, stays⟩ :=
        ih calmBefore inner frame outer frames interrupt
      refine ⟨earlier, response, later ++ [input], ?_, stack, entered, read, stored, reading, waits,
        pending ▸ stays⟩
      simp
    · obtain ⟨pushed, -, stack⟩ := entered.entered
      refine ⟨inputs, response, [], rfl, ?_, entered⟩
      rw [stack, CallStack.push] at frames
      cases inner with
      | nil =>
        cases frames
        rfl
      | cons top inner =>
        rw [List.cons_append, List.cons.injEq] at frames
        exact absurd (.of_mem frames.2 interrupt) alone

/-- No step of an undisturbed run misses the read when it comes back from an interrupt routine. -/
theorem Machine.ne_interruptWithoutRead (begun : Engine.start fresh = .ok () started)
    (inputs : List (Option InputResponse))
    (calm : ∀ earlier, earlier <+: inputs → ¬ (started.afterSteps earlier).Disturbed)
    {input : Option InputResponse} {error : Error} {after : Machine η}
    (failed : Engine.step input (started.afterSteps inputs) = .error error after) :
    error ≠ .interruptWithoutRead := by
  rintro rfl
  cases Engine.fails_step (status_ne_starting begun inputs) failed with
  | admitted admits => cases admits
  | unresumed executes returned none =>
    have kept := Engine.interruptsKept_dispatch executes (calm inputs (List.prefix_refl inputs))
      (initial_afterSteps begun inputs ▸ (Engine.begun_start begun).uninterrupted.2)
    rw [returned] at kept
    cases kept with
    | kept read stays => exact stays trivial
    | resumes frames interrupt pending =>
      obtain ⟨earlier, response, later, -, -, entered⟩ :=
        interruptedBy_afterSteps begun inputs calm _ _ _ frames interrupt
      obtain ⟨read, kept, -, -, stored, -⟩ := entered.pending
      rw [pending, stored] at none
      cases none

end Runs

theorem CallStack.TopChanged.interrupted {before after : CallStack}
    (changed : TopChanged before after) (interrupted : before.Interrupted) : after.Interrupted := by
  cases changed with
  | same => exact interrupted
  | @changed old new activation outer =>
    obtain ⟨frame, member, interrupt⟩ := interrupted
    rcases List.mem_cons.mp member with rfl | member
    · exact ⟨new, List.mem_cons_self, activation.kind.trans interrupt⟩
    · exact ⟨frame, List.mem_cons_of_mem new member, interrupt⟩

omit [Host η] in
theorem Engine.interrupted_setPc {before : Machine η} (interrupted : before.stack.Interrupted)
    (address : Nat) : (finalState (setPc address before)).stack.Interrupted := by
  obtain ⟨-, stuck⟩ | ⟨frame, outer, frames, went⟩ := setPc_cases address before
  · rw [stuck]
    exact interrupted
  · obtain ⟨other, member, interrupt⟩ := interrupted
    rw [went]
    rw [frames] at member
    rcases List.mem_cons.mp member with rfl | member
    · exact ⟨_, List.mem_cons_self, interrupt⟩
    · exact ⟨other, List.mem_cons_of_mem _ member, interrupt⟩

/-- Where a read ends in an interrupt routine, the routine goes on without a read. -/
theorem Machine.Answered.orphaned {machine : Machine η} {pending : PendingRead}
    {response : InputResponse} {result : EStateM.Result Error (Machine η) Unit}
    (answered : machine.Answered response result) (waits : machine.pending = some pending)
    (ends : (pending.consume response.values).2.isSome = true)
    (interrupted : machine.stack.Interrupted) :
    (finalState result).stack.Interrupted ∧ (finalState result).pending = none := by
  cases answered with
  | missing none =>
    rw [none] at waits
    cases waits
  | @lost _ value error after _ _ failed =>
    have quiet := Engine.quiet_noteClick value { machine with pending := none }
    rw [failed] at quiet
    exact ⟨quiet.stack.interrupted interrupted, quiet.pending⟩
  | @completed _ value middle _ _ _ noted completed =>
    have quiet := Engine.quiet_noteClick value { machine with pending := none }
    rw [noted] at quiet
    refine ⟨?_, completed.pending_eq.trans quiet.pending⟩
    have under := quiet.stack.interrupted interrupted
    cases completed with
    | stopped later => exact later.stack.interrupted under
    | went later => exact Engine.interrupted_setPc (later.stack.interrupted under) _
  | interrupted other unended | uncalled other unended | overflowed other unended
  | waiting other unended =>
    rw [waits, Option.some.injEq] at other
    subst other
    rw [unended] at ends
    cases ends

/-- Over whole runs, whatever the input and whichever steps fail, an interrupt routine under way has
the read that it interrupted, and returning from it finds that read, unless some read waited in an
interrupt routine, or a snapshot was restored that was taken in one. A read that ends there leaves
the routine without one, and so does restoring such a snapshot. -/
theorem Machine.interrupted_read_kept_unless_disturbed {fresh started : Machine η}
    (begun : Engine.start fresh = .ok () started) (inputs : List (Option InputResponse)) :
    let reached := started.afterSteps inputs
    ((∀ earlier, earlier <+: inputs → ¬ (started.afterSteps earlier).Disturbed) →
      (∀ inner frame outer, reached.stack.frames = inner ++ frame :: outer →
        frame.kind = .interrupt → ∃ earlier response later,
          inputs = earlier ++ some response :: later ∧
          (started.afterSteps earlier).stack.frames = outer ∧
          (started.afterSteps earlier).InterruptedBy response reached) ∧
      ∀ input error after, Engine.step input reached = .error error after →
        error ≠ .interruptWithoutRead) ∧
    (∀ request pending response, reached.status = .reading request →
      reached.pending = some pending → reached.stack.Interrupted →
      (pending.consume response.values).2.isSome = true →
      let after := finalState (Engine.step (some response) reached)
      after.stack.Interrupted ∧ after.pending = none) ∧
    ∀ instruction snapshot, reached.GetsBack instruction snapshot →
      snapshot.Fits reached.story.memory →
      ∃ restored, Engine.dispatch instruction reached.counted =
          Engine.resumeAfter snapshot.address restored ∧
        restored.stack = snapshot.stack ∧ restored.pending = none := by
  intro reached
  refine ⟨fun calm => ⟨?_, ?_⟩, ?_, ?_⟩
  · exact interruptedBy_afterSteps begun inputs calm
  · intro input error after failed
    exact ne_interruptWithoutRead begun inputs calm failed
  · intro request pending response reading waits interrupted ends
    rw [Engine.step_of_response reading]
    exact (Engine.answered_takeInput reached response).orphaned waits ends interrupted
  · intro instruction snapshot gets fits
    obtain ⟨restored, ran, went, gone⟩ := Engine.dispatch_back gets fits
    exact ⟨restored, ran, went.stack, gone⟩

theorem Machine.not_disturbed {machine : Machine η}
    (apart : machine.status = .running ∨ ∀ frame ∈ machine.stack.frames, frame.kind ≠ .interrupt)
    (onward : ∀ instruction operation, machine.current = .ok instruction →
      instruction.opcode.operation? = some operation → operation.goesBack = false) :
    ¬ machine.Disturbed := by
  intro disturbed
  cases disturbed with
  | nested reading interrupted =>
    rcases apart with running | plain
    · rw [running] at reading
      cases reading
    · obtain ⟨frame, member, interrupt⟩ := interrupted
      exact plain frame member interrupt
  | restored executes gets =>
    cases gets with
    | game means => cases onward _ _ executes.decoded means
    | extended means => cases onward _ _ executes.decoded means
    | undo means => cases onward _ _ executes.decoded means

/-- A story of version 5 that reads a character, with a routine to call after a tenth of a second
that reads a character too. -/
def nestingImage : Array UInt8 :=
  imageOfBytes 0x60 [(0x00, 5), (0x07, 0x40), (0x0f, 0x58), (0x40, 0xf6), (0x41, 0x57), (0x42, 1),
    (0x43, 1), (0x44, 0x14), (0x46, 0xba), (0x51, 0xf6), (0x52, 0x7f), (0x53, 1), (0x55, 0xb1)]

def timePassed : InputResponse :=
  { elapsed := .ofMilliseconds 100 }

def typedLetter : InputResponse :=
  { values := [.character 65] }

/-- Is the machine where it can be left alone: it runs or no interrupt routine is under way, and its
instruction does not go back to a snapshot? -/
def Machine.looksCalm (machine : Machine MemoryStore) : Bool :=
  (machine.status = .running ∨ ∀ frame ∈ machine.stack.frames, frame.kind ≠ .interrupt) ∧
    (machine.current.toOption.bind (·.opcode.operation?)).all (·.goesBack = false)

theorem Machine.not_disturbed_of_looksCalm {machine : Machine MemoryStore}
    (calm : machine.looksCalm = true) : ¬ machine.Disturbed := by
  obtain ⟨apart, onward⟩ := of_decide_eq_true calm
  refine not_disturbed apart fun instruction operation decoded means => ?_
  simpa [decoded, means, Except.toOption] using onward

theorem Machine.interrupted_read_kept_unless_disturbed_nestingImage :
    ∃ started, Machine.started? nestingImage = some started ∧
      (let asked := started.afterSteps [none]
      let reached := started.afterSteps [none, some timePassed]
      asked.InterruptedBy timePassed reached ∧
        ∀ input error after, Engine.step input reached = .error error after →
          error ≠ .interruptWithoutRead) ∧
      let reached := started.afterSteps [none, some timePassed, none, some typedLetter]
      reached.stack.Interrupted ∧ reached.pending = none := by
  have facts : (Machine.started? nestingImage).map (fun started =>
      let nested := started.afterSteps [none, some timePassed, none]
      ([[], [none], [none, some timePassed]].all fun earlier =>
          (started.afterSteps earlier).looksCalm,
        (started.afterSteps [none, some timePassed]).stack.frames.map (·.kind),
        nested.stack.frames.map (·.kind), nested.status,
        nested.pending.map (fun pending => (pending.consume typedLetter.values).2.isSome))) =
      some (true, [.interrupt, .procedure], [.interrupt, .procedure], .reading (.character 0 0),
        some true) := by
    decide +kernel
  obtain ⟨started, begun, facts⟩ := Option.map_eq_some_iff.mp facts
  simp only [Prod.mk.injEq] at facts
  obtain ⟨calm, entered, nested, reading, ends⟩ := facts
  obtain ⟨fresh, -, start⟩ := Machine.started?_eq_some begun
  obtain ⟨pending, waits, ends⟩ := Option.map_eq_some_iff.mp ends
  rw [List.all_eq_true] at calm
  refine ⟨started, begun, ?_, ?_⟩
  · obtain ⟨frame, outer, frames, interrupt, -⟩ := List.map_eq_cons_iff.mp entered
    obtain ⟨kept, returns⟩ := (interrupted_read_kept_unless_disturbed start
      [none, some timePassed]).1 fun earlier isPrefix => by
        simp only [List.prefix_cons_iff, List.prefix_nil] at isPrefix
        apply not_disturbed_of_looksCalm
        rcases isPrefix with rfl | ⟨_, rfl, rfl | ⟨_, rfl, rfl⟩⟩ <;> exact calm _ (by simp)
    refine ⟨?_, returns⟩
    obtain ⟨earlier, response, later, split, -, by_response⟩ := kept [] frame outer frames interrupt
    obtain ⟨rfl, rfl⟩ : earlier = [none] ∧ response = timePassed := by
      rcases earlier with _ | ⟨first, _ | ⟨second, rest⟩⟩
      · simp at split
      · simp at split
        simp [split]
      · simp at split
    exact by_response
  · obtain ⟨frame, outer, frames, interrupt, -⟩ := List.map_eq_cons_iff.mp nested
    exact (interrupted_read_kept_unless_disturbed start [none, some timePassed, none]).2.1
      _ pending typedLetter reading waits ⟨frame, frames ▸ List.mem_cons_self, interrupt⟩ ends

/-- The routine's own read takes the place of the one that it interrupted, so that it cannot return
once its read has ended. -/
theorem Machine.interrupt_return_fails_after_nested_read :
    ∃ started, Machine.started? nestingImage = some started ∧
      let reached := started.afterSteps [none, some timePassed, none, some typedLetter]
      reached.stack.Interrupted ∧ reached.pending = none ∧
        ∃ after, Engine.step none reached = .error .interruptWithoutRead after := by
  have facts : (Machine.started? nestingImage).map (fun started =>
      let reached := started.afterSteps [none, some timePassed, none, some typedLetter]
      (reached.stack.frames.map (·.kind), reached.pending.isNone,
        failure? (Engine.step none reached))) =
      some ([.interrupt, .procedure], true, some .interruptWithoutRead) := by
    decide +kernel
  obtain ⟨started, begun, facts⟩ := Option.map_eq_some_iff.mp facts
  simp only [Prod.mk.injEq] at facts
  obtain ⟨kinds, gone, failed⟩ := facts
  obtain ⟨frame, outer, frames, interrupt, -⟩ := List.map_eq_cons_iff.mp kinds
  refine ⟨started, begun, ⟨frame, frames ▸ List.mem_cons_self, interrupt⟩,
    Option.isNone_iff_eq_none.mp gone, exists_of_failure? failed⟩

end StoryMachine
