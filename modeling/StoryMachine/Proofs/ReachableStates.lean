import Mathlib.Data.List.Induction
import StoryMachine.Proofs.PendingReads
import StoryMachine.Proofs.Resuming

/-! The states that a story can reach. Frames, tables for output and snapshots stay within their
bounds, and as long as a story has not ended there is a frame for it to go on in, so that no step
fails for want of one. -/

namespace StoryMachine

variable {η : Type}

structure Frame.Bounded (frame : Frame) : Prop where
  locals : frame.locals.length ≤ 15
  arguments : frame.argumentCount.toNat ≤ 7

/-- A story of this size can go on from a snapshot. -/
structure Snapshot.Sound (size : Nat) (snapshot : Snapshot) : Prop where
  image : snapshot.image.size = size
  active : snapshot.stack.frames ≠ []
  bounded : ∀ frame ∈ snapshot.stack.frames, frame.Bounded

/-- All that a machine has is within bounds, and it can go on from all its snapshots. -/
structure Machine.Sound [Host η] (start : η) (size : Nat) (machine : Machine η) : Prop where
  memory : machine.story.memory.size = size
  bounded : ∀ frame ∈ machine.stack.frames, frame.Bounded
  captures : machine.captures.length ≤ 16
  history : machine.undo.snapshots.length ≤ 10
  undo : ∀ snapshot ∈ machine.undo.snapshots, snapshot.Sound size
  initial : ∃ snapshot, machine.initial = some snapshot ∧ snapshot.Sound size
  stored : ∃ saved, Given start saved machine.host ∧ ∀ snapshot ∈ saved, snapshot.Sound size

structure Machine.Going [Host η] (start : η) (size : Nat) (machine : Machine η) : Prop extends
    Machine.Sound start size machine where
  active : machine.stack.frames ≠ []

theorem CallStack.TopChanged.bounded {before after : CallStack} (changed : TopChanged before after)
    (bounded : ∀ frame ∈ before.frames, frame.Bounded) : ∀ frame ∈ after.frames, frame.Bounded := by
  cases changed with
  | same => exact bounded
  | changed activation outer =>
    obtain ⟨first, others⟩ := List.forall_mem_cons.mp bounded
    refine List.forall_mem_cons.mpr ⟨⟨?_, ?_⟩, others⟩
    · rw [activation.locals]
      exact first.locals
    · rw [activation.argumentCount]
      exact first.arguments

theorem CallStack.TopChanged.active {before after : CallStack} (changed : TopChanged before after)
    (active : before.frames ≠ []) : after.frames ≠ [] := by
  cases changed with
  | same => exact active
  | changed => exact List.cons_ne_nil _ _

variable [Host η] {start : η} {size : Nat} {machine before after : Machine η}

namespace Machine.Sound

theorem quiet (sound : machine.Sound start size) (quiet : Quiet machine after) :
    after.Sound start size where
  memory := quiet.story.size.trans sound.memory
  bounded := quiet.stack.bounded sound.bounded
  captures := Nat.le_trans quiet.captures (Nat.max_le.mpr ⟨Nat.le_refl 16, sound.captures⟩)
  history := quiet.undo ▸ sound.history
  undo := quiet.undo ▸ sound.undo
  initial := quiet.initial ▸ sound.initial
  stored := by
    obtain ⟨saved, given, all⟩ := sound.stored
    exact ⟨saved, given.consulted_all quiet.host, all⟩

theorem shorten (sound : machine.Sound start size) {left outer : List Frame}
    (frames : machine.stack.frames = left ++ outer) :
    { machine with stack := ⟨outer⟩ }.Sound start size := by
  refine { sound with bounded := fun frame member => sound.bounded frame ?_ }
  rw [frames]
  exact List.mem_append_right left member

end Machine.Sound

namespace Machine.Going

theorem quiet (going : machine.Going start size) (quiet : Quiet machine after) :
    after.Going start size :=
  ⟨going.toSound.quiet quiet, quiet.stack.active going.active⟩

theorem capture (going : machine.Going start size) (address : Nat) :
    (machine.capture address).Sound size :=
  ⟨going.memory, going.active, going.bounded⟩

theorem restore (going : machine.Going start size) {snapshot : Snapshot}
    (sound : snapshot.Sound size) (went : machine.restore? snapshot = some after) :
    after.Going start size := by
  obtain ⟨fits, memory, restored, rfl⟩ := restore?_eq_some went
  exact { going with
    memory := restored.bytes.size.trans sound.image
    bounded := sound.bounded
    captures := Nat.zero_le 16
    active := sound.active }

theorem restart (going : machine.Going start size) {snapshot : Snapshot} {memory : Memory}
    (sound : snapshot.Sound size)
    (replaced : machine.story.memory.replace snapshot.image = .ok memory) (flags : UInt16)
    (seed : UInt64) :
    { machine with
      story := { machine.story with memory := memory.setHeaderWord .flags2 flags }
      stack := snapshot.stack
      captures := []
      randomMode := .random
      host := RandomSource.seed seed machine.host }.Going start size := by
  have layout : (memory.setHeaderWord .flags2 flags).size = machine.story.memory.size :=
    (Story.SameLayout.restart replaced flags).size
  obtain ⟨saved, given, all⟩ := going.stored
  exact { going with
    memory := layout.trans going.memory
    bounded := sound.bounded
    captures := Nat.zero_le 16
    stored := ⟨saved, .consulted given (.seeded _ _), all⟩
    active := sound.active }

theorem snapshots (going : machine.Going start size) (faithful : ReturnsOnlyGiven start)
    (action : SnapshotAction machine after) : after.Going start size := by
  obtain ⟨saved, given, all⟩ := going.stored
  cases action with
  | none => exact going
  | saved address =>
    refine { going with stored := ⟨_, .saved given (machine.capture address), ?_⟩ }
    exact List.forall_mem_cons.mpr ⟨going.capture address, all⟩
  | missed => exact { going with stored := ⟨saved, .restored given, all⟩ }
  | restored found went =>
    have asked : { machine with host := (SaveStore.restore machine.host).2 }.Going start size :=
      { going with stored := ⟨saved, .restored given, all⟩ }
    exact asked.restore (all _ (faithful _ _ _ given found)) went
  | noted address =>
    refine { going with history := List.length_take_le _ _, undo := fun snapshot member => ?_ }
    rcases List.mem_cons.mp (List.mem_of_mem_take member) with rfl | member
    · exact going.capture address
    · exact going.undo snapshot member
  | @dropped snapshot undo popped =>
    have all := UndoHistory.snapshots_of_pop popped
    have history := going.history
    rw [all, List.length_cons] at history
    refine { going with history := Nat.le_of_succ_le history, undo := fun snapshot member => ?_ }
    apply going.undo
    rw [all]
    exact List.mem_cons_of_mem _ member
  | @undone snapshot undo _ popped went =>
    have all := going.undo
    have history := going.history
    rw [UndoHistory.snapshots_of_pop popped] at all history
    obtain ⟨first, others⟩ := List.forall_mem_cons.mp all
    have taken : { machine with undo }.Going start size :=
      { going with history := Nat.le_of_succ_le history, undo := others }
    exact taken.restore first went
  | @restarted snapshot memory initial replaced =>
    obtain ⟨other, found, sound⟩ := going.initial
    rw [initial, Option.some.injEq] at found
    subst found
    exact going.restart sound replaced _ _

theorem setPc (going : machine.Going start size) (address : Nat) :
    (finalState (Engine.setPc address machine)).Going start size := by
  obtain ⟨-, stuck⟩ | ⟨frame, outer, frames, went⟩ := Engine.setPc_cases address machine
  · rw [stuck]
    exact going
  · have bounded := going.bounded
    rw [frames] at bounded
    obtain ⟨first, others⟩ := List.forall_mem_cons.mp bounded
    rw [went]
    refine { going with bounded := ?_, active := List.cons_ne_nil _ _ }
    exact List.forall_mem_cons.mpr ⟨⟨first.locals, first.arguments⟩, others⟩

end Machine.Going

/-- What an instruction leaves: a machine that can go on, unless the instruction ends the story. -/
def LeavesGoing (start : η) (size : Nat) :
    EStateM.Result Error (Machine η) Continuation → Prop
  | .ok .quit after => after.Sound start size
  | result => (finalState result).Going start size

theorem Returned.leavesGoing {frame : Frame} {value : UInt16}
    {result : EStateM.Result Error (Machine η) Continuation} (sound : before.Sound start size)
    (returned : Returned frame value before result) : LeavesGoing start size result := by
  have going (active : before.stack.isEmpty = false) : before.Going start size :=
    ⟨sound, by simpa [CallStack.isEmpty] using active⟩
  cases returned with
  | last => exact sound
  | dropped active => exact going active
  | resumed active => exact going active
  | @stored store after active kind written =>
    have quiet := Engine.quiet_writeVariable store.target.toNat value before
    rw [written] at quiet
    exact (going active).quiet quiet
  | @unstored store error after active kind failed =>
    have quiet := Engine.quiet_writeVariable store.target.toNat value before
    rw [failed] at quiet
    exact (going active).quiet quiet

theorem Finished.leavesGoing {result : EStateM.Result Error (Machine η) Continuation}
    (going : before.Going start size) (finished : Finished before result) :
    LeavesGoing start size result := by
  cases finished with
  | went quiet => exact going.quiet quiet
  | failed quiet => exact going.quiet quiet
  | stopped quiet => exact (going.quiet quiet).toSound
  | waits quiet => exact { going.quiet quiet with }
  | @returns middle quiet left outer frame frames value result returned =>
    rw [List.append_cons] at frames
    exact returned.leavesGoing ((going.quiet quiet).toSound.shorten frames)

theorem Operation.arguments_length (operation : Operation) {operands : Operands}
    (few : operands.values.length ≤ 8) : (operation.arguments operands).length ≤ 7 := by
  have rest : operands.rest.length ≤ 7 := by
    rw [Operands.rest, List.length_drop]
    omega
  cases operation with
  | call1s | call1n => exact Nat.zero_le 7
  | _ => exact rest

theorem Called.leavesGoing {instruction : Instruction} {operation : Operation}
    {result : EStateM.Result Error (Machine η) Continuation} (going : before.Going start size)
    (few : instruction.operands.length ≤ 8)
    (called : Called instruction operation.arguments before result) :
    LeavesGoing start size result := by
  cases called with
  | unevaluated quiet => exact going.quiet quiet
  | @evaluated required operands middle result ran entered =>
    have quiet := Engine.quiet_evaluate instruction required before
    rw [ran] at quiet
    have going := going.quiet quiet
    obtain ⟨-, -, count⟩ := Engine.evaluate_eq_ok ran
    cases entered with
    | skipped later => exact going.quiet later
    | failed later => exact going.quiet later
    | @pushed first locals found kind returnAddress =>
      have passed := operation.arguments_length (count ▸ few)
      refine { going with bounded := ?_, active := List.cons_ne_nil _ _ }
      refine List.forall_mem_cons.mpr ⟨⟨?_, ?_⟩, going.bounded⟩
      · rw [passArguments_length]
        exact (Story.routine_eq_ok found).2.1
      · rw [UInt8.toNat_ofNat']
        omega

theorem Engine.leavesGoing_dispatch (going : machine.Going start size)
    (faithful : ReturnsOnlyGiven start) {instruction : Instruction}
    (few : instruction.operands.length ≤ 8) :
    LeavesGoing start size (dispatch instruction machine) := by
  obtain ⟨started, middle, quiet, snapshots, finished⟩ | ⟨operation, called⟩ :=
    settled_or_called_dispatch instruction machine
  · exact finished.leavesGoing ((going.quiet quiet).snapshots faithful snapshots)
  · exact called.leavesGoing going few

theorem Completed.going {pending : PendingRead} {result : EStateM.Result Error (Machine η) Unit}
    (completed : Completed pending before result) (going : before.Going start size) :
    (finalState result).Going start size := by
  have runs : { before with status := .running }.Going start size := { going with }
  cases completed with
  | stopped quiet => exact runs.quiet quiet
  | went quiet => exact (runs.quiet quiet).setPc _

theorem Resumed.going {result : EStateM.Result Error (Machine η) Unit}
    (going : before.Going start size) (resumed : Resumed before result) :
    (finalState result).Going start size := by
  cases resumed with
  | missing => exact going
  | ended waits completed => exact completed.going { going with }
  | waiting => exact { going with }

/-- A step leaves a machine that can go on, or it works and ends the story. -/
def GoesOn (start : η) (size : Nat) (result : EStateM.Result Error (Machine η) Unit) : Prop :=
  (finalState result).Going start size ∨
    ∃ after, result = .ok () after ∧ after.status = .halted ∧ after.Sound start size

omit [Host η] in
theorem Machine.Executes.operands_length {instruction : Instruction}
    (executes : machine.Executes instruction) : instruction.operands.length ≤ 8 := by
  obtain ⟨frame, outer, frames, decoded⟩ := Machine.current_eq_ok executes.decoded
  exact Instruction.scan_operands_length (Story.scan_of_decoded decoded)

theorem Machine.Stepped.goesOn {result : EStateM.Result Error (Machine η) Unit}
    (going : machine.Going start size) (faithful : ReturnsOnlyGiven start)
    (stepped : machine.Stepped result) : GoesOn start size result := by
  have counted : machine.counted.Going start size := { going with }
  have dispatched {instruction : Instruction} (executes : machine.Executes instruction) :
      LeavesGoing start size (Engine.dispatch instruction machine.counted) :=
    Engine.leavesGoing_dispatch counted faithful executes.operands_length
  cases stepped with
  | idle => exact .inl going
  | undecoded => exact .inl counted
  | stopped executes failed quiet =>
    have left := dispatched executes
    rw [failed] at left
    exact .inl (Going.quiet left quiet)
  | passed executes failed quiet =>
    have left := dispatched executes
    rw [failed] at left
    exact .inl ((Going.quiet left quiet).setPc _)
  | @advanced instruction next after executes ran =>
    have left := dispatched executes
    rw [ran] at left
    cases next with
    | goto address => exact .inl (Going.setPc left address)
    | await request =>
      have left : after.Going start size := left
      exact .inl { left with }
    | quit =>
      have left : after.Sound start size := left
      exact .inr ⟨_, rfl, rfl, { left with }⟩
    | resume address value =>
      exact .inl ((Engine.resumed_advance address value after).going left)

theorem Machine.Answered.going {response : InputResponse}
    {result : EStateM.Result Error (Machine η) Unit} (going : machine.Going start size)
    (answered : machine.Answered response result) : (finalState result).Going start size := by
  have taken : { machine with pending := none }.Going start size := { going with }
  cases answered with
  | missing | overflowed => exact going
  | @lost pending value error after waits ends failed =>
    have quiet := Engine.quiet_noteClick value { machine with pending := none }
    rw [failed] at quiet
    exact taken.quiet quiet
  | @completed pending value middle result waits ends noted completed =>
    have quiet := Engine.quiet_noteClick value { machine with pending := none }
    rw [noted] at quiet
    exact completed.going (taken.quiet quiet)
  | interrupted waits unended same request found =>
    refine { going with bounded := ?_, active := List.cons_ne_nil _ _ }
    refine List.forall_mem_cons.mpr ⟨⟨?_, Nat.zero_le 7⟩, going.bounded⟩
    rw [passArguments_length]
    exact (Story.routine_eq_ok found).2.1
  | uncalled => exact { going with }
  | waiting => exact { going with }

theorem Engine.goesOn_step (begun : machine.status ≠ .starting)
    (unended : machine.status ≠ .halted) (going : machine.Going start size)
    (faithful : ReturnsOnlyGiven start) (input : Option InputResponse) :
    GoesOn start size (step input machine) := by
  cases status : machine.status with
  | starting => exact absurd status begun
  | running => exact (stepped_step status input).goesOn going faithful
  | halted => exact absurd status unended
  | reading request =>
    cases input with
    | none =>
      rw [step_of_no_response status]
      exact .inl going
    | some response =>
      rw [step_of_response status]
      exact .inl ((answered_takeInput machine response).going going)

/-- No step fails for want of a frame that leaves one, or a state to restart from. -/
theorem Machine.Going.code_ne_noFrame {error : Error} (going : machine.Going start size)
    (admits : machine.Admits error) : error.code ≠ .noFrame := by
  have active : machine.stack.isEmpty = false := by
    simpa [CallStack.isEmpty] using going.active
  obtain ⟨snapshot, initial, -⟩ := going.initial
  intro code
  cases error with
  | noFrameToPop | noActiveFrame =>
    rw [Machine.Admits, active] at admits
    cases admits
  | restartBeforeStart =>
    rw [Machine.Admits, initial] at admits
    cases admits
  | external => cases admits
  | _ => cases code

section Runs

variable {image : Array UInt8} {config : Config} {host : η} {fresh started : Machine η}

/-- A loaded story that has started can go on. -/
theorem Machine.going_of_start (loaded : Machine.load image config host = .ok fresh)
    (begun : Engine.start fresh = .ok () started) : started.Going host image.size := by
  obtain ⟨story, -⟩ := Machine.load_eq_ok loaded
  obtain ⟨-, memory⟩ := Story.load_eq_ok story
  obtain ⟨bytes, -⟩ := Memory.load_eq_ok memory
  have new : fresh = { story := fresh.story, config, host } := by
    rw [Machine.load, story] at loaded
    exact (Except.ok.inj loaded).symm
  have captures : fresh.captures = [] := congrArg Machine.captures new
  have undo : fresh.undo = {} := congrArg Machine.undo new
  have starts := Engine.begun_start begun
  obtain ⟨frame, frames, -, locals, arguments, initial⟩ := starts.frames
  have size : started.story.memory.size = image.size := by
    rw [starts.story.size, Memory.size, bytes]
  have active : started.stack.frames ≠ [] := by
    rw [frames]
    exact List.cons_ne_nil _ _
  have bounded : ∀ other ∈ started.stack.frames, other.Bounded := by
    intro other member
    rw [frames, List.mem_singleton] at member
    subst other
    refine ⟨locals, ?_⟩
    rw [arguments]
    exact Nat.zero_le 7
  have none : ∀ snapshot ∈ ([] : List Snapshot), snapshot.Sound image.size := by
    intro snapshot member
    cases member
  exact {
    memory := size
    bounded
    captures := by
      rw [starts.captures, captures]
      exact Nat.zero_le 16
    history := by
      rw [starts.undo, undo]
      exact Nat.zero_le 10
    undo := by
      rw [starts.undo, undo]
      exact none
    initial := ⟨_, initial, size, active, bounded⟩
    stored := ⟨[], by rw [starts.host, new]; exact .start, none⟩
    active }

theorem Machine.going_afterSteps (loaded : Machine.load image config host = .ok fresh)
    (begun : Engine.start fresh = .ok () started) (faithful : ReturnsOnlyGiven host)
    (inputs : List (Option InputResponse)) :
    let reached := started.afterSteps inputs
    reached.Sound host image.size ∧ (reached.status ≠ .halted → reached.Going host image.size) := by
  induction inputs using List.reverseRecOn with
  | nil =>
    have going := going_of_start loaded begun
    exact ⟨going.toSound, fun _ => going⟩
  | append_singleton inputs input ih =>
    obtain ⟨sound, going⟩ := ih
    rw [afterSteps_concat]
    by_cases halted : (started.afterSteps inputs).status = .halted
    · rw [Engine.step_of_halted halted]
      exact ⟨sound, going⟩
    · obtain going | ⟨after, ran, ended, sound⟩ := Engine.goesOn_step
        (status_ne_starting begun inputs) halted (going halted) faithful input
      · exact ⟨going.toSound, fun _ => going⟩
      · rw [ran]
        exact ⟨sound, fun unended => absurd ended unended⟩

theorem Machine.code_ne_noFrame (loaded : Machine.load image config host = .ok fresh)
    (begun : Engine.start fresh = .ok () started) (faithful : ReturnsOnlyGiven host)
    (inputs : List (Option InputResponse)) {input : Option InputResponse} {error : Error}
    {after : Machine η}
    (failed : Engine.step input (started.afterSteps inputs) = .error error after) :
    error.code ≠ .noFrame := by
  have unended : (started.afterSteps inputs).status ≠ .halted := by
    intro halted
    rw [Engine.step_of_halted halted] at failed
    cases failed
  have going := (going_afterSteps loaded begun faithful inputs).2 unended
  have past := status_ne_starting begun inputs
  have left := Engine.goesOn_step past unended going faithful input
  cases Engine.fails_step past failed with
  | admitted admits =>
    rw [failed] at left
    obtain going | ⟨other, ran, -⟩ := left
    · exact going.code_ne_noFrame admits
    · cases ran
  | unread | unresumed | overflowed => nofun

/-- Over whole runs, whatever the input and whichever steps fail: while a story has not ended, there
is a frame for it to go on in, and no step fails for want of one. Frames have at most 15 local
variables and 7 arguments, at most 16 tables take output, and at most 10 snapshots are kept for
undo. Every snapshot, be it for undo, for a restart or in the store, has a frame and the size of the
image. A story that has ended stays as it is. -/
theorem Machine.reachable_states_sound (loaded : Machine.load image config host = .ok fresh)
    (begun : Engine.start fresh = .ok () started) (faithful : ReturnsOnlyGiven host)
    (inputs : List (Option InputResponse)) :
    let reached := started.afterSteps inputs
    let resumable (snapshot : Snapshot) :=
      snapshot.stack.frames ≠ [] ∧ snapshot.image.size = reached.story.memory.size
    (reached.status = .running ∨ (∃ request, reached.status = .reading request) →
      reached.stack.frames ≠ []) ∧
    (∀ input error after, Engine.step input reached = .error error after →
      error.code ≠ .noFrame) ∧
    (∀ frame ∈ reached.stack.frames,
      frame.locals.length ≤ 15 ∧ frame.argumentCount.toNat ≤ 7) ∧
    reached.captures.length ≤ 16 ∧ reached.undo.snapshots.length ≤ 10 ∧
    reached.story.memory.size = image.size ∧
    (∀ snapshot ∈ reached.undo.snapshots, resumable snapshot) ∧
    (∃ snapshot, reached.initial = some snapshot ∧ resumable snapshot) ∧
    (∃ saved, Given host saved reached.host ∧ ∀ snapshot ∈ saved, resumable snapshot) ∧
    (∀ snapshot, (SaveStore.restore reached.host).1 = some snapshot → resumable snapshot) ∧
    (reached.status = .halted → ∀ input, Engine.step input reached = .ok () reached) := by
  intro reached resumable
  obtain ⟨sound, going⟩ := going_afterSteps loaded begun faithful inputs
  have resumes {snapshot : Snapshot} (fine : snapshot.Sound image.size) : resumable snapshot :=
    ⟨fine.active, fine.image.trans sound.memory.symm⟩
  obtain ⟨first, initial, restarts⟩ := sound.initial
  obtain ⟨saved, given, all⟩ := sound.stored
  refine ⟨?_, ?_, ?_, sound.captures, sound.history, sound.memory, ?_, ?_, ?_, ?_, ?_⟩
  · rintro (running | ⟨request, reading⟩)
    · exact (going (by rw [running]; nofun)).active
    · exact (going (by rw [reading]; nofun)).active
  · intro input error after failed
    exact code_ne_noFrame loaded begun faithful inputs failed
  · intro frame member
    exact ⟨(sound.bounded frame member).locals, (sound.bounded frame member).arguments⟩
  · intro snapshot member
    exact resumes (sound.undo snapshot member)
  · exact ⟨first, initial, resumes restarts⟩
  · exact ⟨saved, given, fun snapshot member => resumes (all snapshot member)⟩
  · intro snapshot found
    exact resumes (all snapshot (faithful saved _ snapshot given found))
  · intro halted input
    exact Engine.step_of_halted halted input

end Runs

/-- A story of version 5 that takes a snapshot for undo, saves, calls a routine with two arguments,
and ends there. -/
def archivingImage : Array UInt8 :=
  imageOfBytes 0x60 [(0x00, 5), (0x07, 0x40), (0x0f, 0x58), (0x40, 0xbe), (0x41, 0x09),
    (0x42, 0xff), (0x44, 0xbe), (0x46, 0xff), (0x48, 0xe0), (0x49, 0x57), (0x4a, 0x14), (0x4b, 1), (0x4c, 2),
    (0x50, 2), (0x51, 0xba)]

theorem Machine.reachable_states_sound_archivingImage :
    ∃ started, Machine.started? archivingImage = some started ∧
      (let reached := started.afterSteps [none, none, none]
      reached.stack.frames.length = 2 ∧
        (∀ frame ∈ reached.stack.frames,
          frame.locals.length ≤ 15 ∧ frame.argumentCount.toNat ≤ 7) ∧
        (∃ snapshot ∈ reached.undo.snapshots, snapshot.stack.frames ≠ []) ∧
        ∃ snapshot, reached.host.saved = some snapshot ∧ snapshot.stack.frames ≠ [] ∧
          snapshot.image.size = 0x60) ∧
      let reached := started.afterSteps [none, none, none, none]
      ∀ input, Engine.step input reached = .ok () reached := by
  have facts : (Machine.started? archivingImage).map (fun started =>
      let reached := started.afterSteps [none, none, none]
      (reached.stack.frames.length, reached.undo.snapshots.isEmpty, reached.host.saved.isSome,
        (started.afterSteps [none, none, none, none]).status)) =
      some (2, false, true, .halted) := by
    decide +kernel
  obtain ⟨started, begun, facts⟩ := Option.map_eq_some_iff.mp facts
  simp only [Prod.mk.injEq] at facts
  obtain ⟨depth, kept, stored, halted⟩ := facts
  obtain ⟨fresh, loaded, start⟩ := Machine.started?_eq_some begun
  obtain ⟨snapshot, saved⟩ := Option.isSome_iff_exists.mp stored
  obtain ⟨-, -, bounded, -, -, size, undo, -, -, restores, -⟩ :=
    reachable_states_sound loaded start returnsOnlyGiven_memoryStore [none, none, none]
  obtain ⟨-, -, -, -, -, -, -, -, -, -, ended⟩ :=
    reachable_states_sound loaded start returnsOnlyGiven_memoryStore [none, none, none, none]
  refine ⟨started, begun, ⟨depth, bounded, ?_, ?_⟩, ended halted⟩
  · obtain ⟨first, member⟩ := List.exists_mem_of_ne_nil _ (List.isEmpty_eq_false_iff.mp kept)
    exact ⟨first, member, (undo first member).1⟩
  · obtain ⟨active, image⟩ := restores snapshot saved
    exact ⟨snapshot, saved, active, image.trans (size.trans (by decide +kernel))⟩

end StoryMachine
