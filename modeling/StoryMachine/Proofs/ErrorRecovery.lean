import StoryMachine.Proofs.Restoring
import StoryMachine.Proofs.StaticMemory
import StoryMachine.Proofs.Stepping

/-! Carrying on after an error. Under every policy but to abort, a step whose instruction fails with
a recoverable error reports it, stores 0 for the result and goes on after the instruction. Only that
store can stop it, since the 0 may have nowhere to go. -/

namespace StoryMachine

variable {η : Type}

structure Machine.SameSettings (before after : Machine η) : Prop where
  status : after.status = before.status
  config : after.config = before.config

namespace Machine.SameSettings

variable {before middle after : Machine η}

theorem trans (first : SameSettings before middle) (second : SameSettings middle after) :
    SameSettings before after :=
  ⟨second.status.trans first.status, second.config.trans first.config⟩

theorem restore {snapshot : Snapshot} (went : before.restore? snapshot = some after) :
    SameSettings before after := by
  obtain ⟨-, memory, -, rfl⟩ := Machine.restore?_eq_some went
  exact ⟨rfl, rfl⟩

variable [Host η] {result : EStateM.Result Error (Machine η) Continuation}

theorem quiet (silent : Quiet before after) : SameSettings before after :=
  ⟨silent.status, silent.config⟩

theorem snapshots (action : SnapshotAction before after) : SameSettings before after := by
  cases action with
  | none | saved | missed | noted | dropped | restarted => exact ⟨rfl, rfl⟩
  | restored found went =>
    obtain ⟨status, config⟩ := restore went
    exact ⟨status, config⟩
  | undone popped went =>
    obtain ⟨status, config⟩ := restore went
    exact ⟨status, config⟩

theorem returned {frame : Frame} {value : UInt16} (returned : Returned frame value before result) :
    SameSettings before (finalState result) := by
  cases returned with
  | last | dropped | resumed => exact ⟨rfl, rfl⟩
  | @stored store after active kind written =>
    have silent := Engine.quiet_writeVariable store.target.toNat value before
    rw [written] at silent
    exact quiet silent
  | @unstored store error after active kind failed =>
    have silent := Engine.quiet_writeVariable store.target.toNat value before
    rw [failed] at silent
    exact quiet silent

theorem finished (finished : Finished before result) :
    SameSettings before (finalState result) := by
  cases finished with
  | went silent | failed silent | stopped silent => exact quiet silent
  | waits silent => exact ⟨silent.status, silent.config⟩
  | returns silent frames back =>
    obtain ⟨status, config⟩ := returned back
    exact (quiet silent).trans ⟨status, config⟩

theorem called {instruction : Instruction} {arguments : Operands → List UInt16}
    (called : Called instruction arguments before result) :
    SameSettings before (finalState result) := by
  cases called with
  | unevaluated silent => exact quiet silent
  | @evaluated required operands middle result ran entered =>
    have silent := Engine.quiet_evaluate instruction required before
    rw [ran] at silent
    refine (quiet silent).trans ?_
    cases entered with
    | skipped later | failed later => exact quiet later
    | pushed => exact ⟨rfl, rfl⟩

theorem dispatch (instruction : Instruction) (before : Machine η) :
    SameSettings before (finalState (Engine.dispatch instruction before)) := by
  cases Engine.performs_dispatch instruction before with
  | intro silent action ended =>
    exact (quiet silent).trans ((snapshots action).trans (finished ended))
  | called silent entered => exact (quiet silent).trans (called entered)

end Machine.SameSettings

/-- Nothing changes the settings of a machine. -/
theorem Machine.config_of_reaches [Host η] {before after : Machine η}
    (reached : Reaches before after) : after.config = before.config := by
  induction reached with
  | refl => rfl
  | tail _ last ih =>
    refine Eq.trans ?_ ih
    cases last with
    | quiet silent => exact silent.config
    | snapshots action => exact (Machine.SameSettings.snapshots action).config
    | jumped | called | returned | awaited | entered | counted | described | began | started => rfl

theorem CallStack.TopChanged.isEmpty {before after : CallStack}
    (changed : TopChanged before after) : after.isEmpty = before.isEmpty := by
  cases changed <;> rfl

theorem CallStack.TopChanged.eq_of_nil {before after : CallStack}
    (changed : TopChanged before after) (empty : before.frames = []) : after = before := by
  cases changed with
  | same => rfl
  | changed => cases empty

variable [Host η]

theorem Finished.active_of_error {before after : Machine η} {error : Error}
    (active : before.stack.isEmpty = false) (finished : Finished before (.error error after)) :
    after.stack.isEmpty = false := by
  cases finished with
  | failed silent => exact silent.stack.isEmpty.trans active
  | @returns middle _ left outer frame frames value _ returned =>
    cases returned with
    | @unstored store _ _ inside kind failed =>
      have silent := Engine.quiet_writeVariable store.target.toNat value
        { middle with stack := ⟨outer⟩ }
      rw [failed] at silent
      exact silent.stack.isEmpty.trans inside

/-- An instruction that fails without going back to a snapshot leaves a frame to go on in. -/
theorem Onward.active_of_error {instruction : Instruction} {before after : Machine η}
    {error : Error} (active : before.stack.isEmpty = false)
    (onward : Onward instruction before (.error error after)) : after.stack.isEmpty = false := by
  cases onward with
  | settled silent finished =>
    refine Finished.active_of_error ?_ finished
    exact silent.stack.isEmpty.trans active
  | called means called =>
    cases called with
    | unevaluated silent => exact silent.stack.isEmpty.trans active
    | @evaluated required operands middle _ ran entered =>
      have silent := Engine.quiet_evaluate instruction required before
      rw [ran] at silent
      cases entered with
      | failed later => exact (silent.trans later).stack.isEmpty.trans active

/-- The result of an instruction has somewhere to go: there is an active frame, and the variable
for the result, if there is one, can be written. -/
def Machine.AcceptsResult (machine : Machine η) (instruction : Instruction) : Prop :=
  ∃ frame ∈ machine.stack.frames.head?, ∀ store ∈ instruction.store,
    machine.story.Writable frame store.target.toNat

instance (machine : Machine η) (instruction : Instruction) :
    Decidable (machine.AcceptsResult instruction) :=
  inferInstanceAs (Decidable (∃ frame ∈ machine.stack.frames.head?, _))

namespace Engine

section Storing

omit [Host η]

variable {machine : Machine η} {instruction : Instruction} {frame : Frame} {outer : List Frame}

theorem storeResult_of_accepts (accepts : machine.AcceptsResult instruction) (value : UInt16) :
    ∃ after, storeResult instruction value machine = .ok () after := by
  obtain ⟨frame, innermost, writable⟩ := accepts
  obtain ⟨outer, frames⟩ := List.head?_eq_some_iff.1 innermost
  rw [storeResult]
  cases stores : instruction.store with
  | none => exact ⟨machine, rfl⟩
  | some store => exact writeVariable_of_writable frames (writable store stores) value

theorem storeResult_of_not_accepts (frames : machine.stack.frames = frame :: outer)
    (refuses : ¬ machine.AcceptsResult instruction) (value : UInt16) :
    ∃ problem, storeResult instruction value machine = .error problem machine ∧
      problem.isRecoverable = true := by
  have innermost : frame ∈ machine.stack.frames.head? := by rw [frames]; rfl
  rw [storeResult]
  cases stores : instruction.store with
  | none => exact absurd ⟨frame, innermost, by simp [stores]⟩ refuses
  | some store =>
    have unwritable : ¬ machine.story.Writable frame store.target.toNat := by
      intro writable
      exact refuses ⟨frame, innermost, by simpa [stores] using writable⟩
    exact writeVariable_of_not_writable frames unwritable value

theorem setPc_of_inactive (frames : machine.stack.frames = []) (address : Nat) :
    setPc address machine = .error .noActiveFrame machine := by
  simp only [setPc, updateTop, updateStack, CallStack.modifyTop, frames]

end Storing

variable {machine failed : Machine η} {instruction : Instruction} {error : Error}

theorem report_of_recoverable (recoverable : error.isRecoverable = true)
    (policy : machine.config.errorPolicy ≠ .abort) :
    ∃ host reported, report error machine = .ok () { machine with host, reported } := by
  unfold report
  rw [get_bind]
  simp only [recoverable, not_true_eq_false, if_false]
  cases chosen : machine.config.errorPolicy with
  | abort => exact absurd chosen policy
  | ignore => exact ⟨_, _, rfl⟩
  | warnAlways => exact ⟨_, _, rfl⟩
  | warnOnce =>
    dsimp only
    split
    next => exact ⟨_, _, rfl⟩
    next => exact ⟨_, _, rfl⟩

theorem finishWith_advance_of_accepts (accepts : machine.AcceptsResult instruction)
    (value : UInt16) :
    ∃ after frame outer, (finishWith instruction value >>= advance) machine = .ok () after ∧
      after.status = machine.status ∧ after.stack.frames = frame :: outer ∧
      frame.pc = instruction.next := by
  obtain ⟨stored, ran⟩ := storeResult_of_accepts accepts value
  have finished : finishWith instruction value machine = .ok (.goto instruction.next) stored :=
    bind_of_ok ran
  have silent := quiet_storeResult instruction value machine
  rw [ran] at silent
  have active : stored.stack.isEmpty = false := by
    obtain ⟨frame, innermost, -⟩ := accepts
    obtain ⟨outer, frames⟩ := List.head?_eq_some_iff.1 innermost
    rw [show stored.stack.isEmpty = machine.stack.isEmpty from silent.stack.isEmpty,
      CallStack.isEmpty, frames, List.isEmpty_cons]
  cases frames : stored.stack.frames with
  | nil => simp [CallStack.isEmpty, frames] at active
  | cons frame outer =>
    rw [bind_of_ok finished]
    exact ⟨_, _, outer, setPc_of_active frames instruction.next, silent.status, rfl, rfl⟩

theorem finishWith_advance_of_not_accepts (refuses : ¬ machine.AcceptsResult instruction)
    (value : UInt16) :
    ∃ problem after, (finishWith instruction value >>= advance) machine = .error problem after ∧
      after.status = machine.status ∧ after.stack = machine.stack ∧
      (machine.stack.isEmpty = false → problem.isRecoverable = true) := by
  cases frames : machine.stack.frames with
  | cons frame outer =>
    obtain ⟨problem, failed, recoverable⟩ := storeResult_of_not_accepts frames refuses value
    have unfinished : finishWith instruction value machine = .error problem machine :=
      bind_of_error failed
    exact ⟨problem, machine, bind_of_error unfinished, rfl, rfl, fun _ => recoverable⟩
  | nil =>
    have silent := quiet_storeResult instruction value machine
    have inactive : machine.stack.isEmpty ≠ false := by simp [CallStack.isEmpty, frames]
    cases ran : storeResult instruction value machine with
    | error problem after =>
      rw [ran] at silent
      have unfinished : finishWith instruction value machine = .error problem after :=
        bind_of_error ran
      exact ⟨problem, after, bind_of_error unfinished, silent.status,
        silent.stack.eq_of_nil frames, fun active => absurd active inactive⟩
    | ok _ stored =>
      rw [ran] at silent
      have stack : stored.stack = machine.stack := silent.stack.eq_of_nil frames
      have finished : finishWith instruction value machine = .ok (.goto instruction.next) stored :=
        bind_of_ok ran
      rw [bind_of_ok finished]
      exact ⟨_, stored, setPc_of_inactive (stack ▸ frames) instruction.next, silent.status, stack,
        fun active => absurd active inactive⟩

/-- After a recoverable error that the policy survives, a step goes on after the instruction exactly
if the instruction's result has somewhere to go. Otherwise the step fails and the innermost frame
stays at its address. Short of going back to a snapshot, the frame is always there. -/
theorem step_after_recoverable_error (executes : machine.Executes instruction)
    (policy : machine.config.errorPolicy ≠ .abort)
    (raised : dispatch instruction machine.counted = .error error failed)
    (recoverable : error.isRecoverable = true) (input : Option InputResponse) :
    (failed.AcceptsResult instruction →
      ∃ after frame outer, step input machine = .ok () after ∧ after.status = .running ∧
        after.stack.frames = frame :: outer ∧ frame.pc = instruction.next) ∧
    (¬ failed.AcceptsResult instruction →
      ∃ problem after, step input machine = .error problem after ∧ after.status = .running ∧
        after.stack = failed.stack ∧
        (failed.stack.isEmpty = false → problem.isRecoverable = true)) ∧
    (instruction.goesBack machine.version = false → failed.stack.isEmpty = false) := by
  have settings := Machine.SameSettings.dispatch instruction machine.counted
  rw [raised] at settings
  have running : failed.status = .running := settings.status.trans executes.running
  have survives : failed.config.errorPolicy ≠ .abort := by
    rw [show failed.config = machine.config from settings.config]
    exact policy
  obtain ⟨host, reported, told⟩ := report_of_recoverable recoverable survives
  let told' : Machine η := { failed with host, reported }
  have stepped : step input machine = (finishWith instruction 0 >>= advance) told' := by
    rw [step_of_error executes raised]
    simp only [degrade, bind, EStateM.bind, told, told']
  refine ⟨fun accepts => ?_, fun refuses => ?_, fun onward => ?_⟩
  · have accepts' : told'.AcceptsResult instruction := accepts
    obtain ⟨after, frame, outer, went, status, frames, pc⟩ :=
      finishWith_advance_of_accepts accepts' 0
    exact ⟨after, frame, outer, stepped.trans went, status.trans running, frames, pc⟩
  · have refuses' : ¬ told'.AcceptsResult instruction := refuses
    obtain ⟨problem, after, stopped, status, stack, kind⟩ :=
      finishWith_advance_of_not_accepts refuses' 0
    exact ⟨problem, after, stepped.trans stopped, status.trans running, stack, kind⟩
  · obtain ⟨frame, outer, frames, -⟩ := Machine.current_eq_ok executes.decoded
    have active : machine.counted.stack.isEmpty = false := by
      simp [Machine.counted, CallStack.isEmpty, frames]
    have onward' : instruction.goesBack machine.counted.version = false := onward
    have went := onward_dispatch onward'
    rw [raised] at went
    exact went.active_of_error active

def dividing : Machine MemoryStore :=
  .ofBytes .v3 [(0x40, 0x17), (0x41, 1), (0x42, 0), (0x43, 0)]

theorem step_after_recoverable_error_dividing :
    ∃ instruction failed, dividing.Executes instruction ∧
      dispatch instruction dividing.counted = .error .divisionByZero failed ∧
      failed.AcceptsResult instruction ∧
      ∃ after frame outer, step none dividing = .ok () after ∧ after.status = .running ∧
        after.stack.frames = frame :: outer ∧ frame.pc = 0x44 := by
  have checked : (match dividing.current with
    | .ok instruction =>
      match dispatch instruction dividing.counted with
      | .error error failed => decide (error = .divisionByZero ∧
          failed.AcceptsResult instruction ∧ instruction.next = 0x44)
      | .ok _ _ => false
    | .error _ => false) = true := by
    decide +kernel
  split at checked
  next instruction decoded =>
    split at checked
    next error failed raised =>
      obtain ⟨rfl, accepts, next⟩ := of_decide_eq_true checked
      have executes : dividing.Executes instruction := ⟨rfl, decoded⟩
      obtain ⟨resumes, -, -⟩ :=
        step_after_recoverable_error executes (by decide) raised (by decide) none
      obtain ⟨after, frame, outer, stepped, running, frames, pc⟩ := resumes accepts
      exact ⟨instruction, failed, executes, raised, accepts, after, frame, outer, stepped, running,
        frames, pc.trans next⟩
    next => cases checked
  next => cases checked

/-- A story of version 3 that adds 1 and 2 for a fifth local variable, which its routine does not
have. -/
def misplacing : Machine MemoryStore :=
  .ofBytes .v3 [(0x40, 0x14), (0x41, 1), (0x42, 2), (0x43, 5)]

/-- The error is recoverable and the policy is to carry on, and yet the step fails with the same
error and leaves the machine at the same instruction. -/
theorem step_fails_misplacing :
    ∃ instruction error failed after, misplacing.Executes instruction ∧
      misplacing.config.errorPolicy = .warnAlways ∧
      dispatch instruction misplacing.counted = .error error failed ∧ error.isRecoverable = true ∧
      step none misplacing = .error error after ∧ after.Executes instruction := by
  have checked : (match misplacing.current with
    | .ok instruction =>
      match dispatch instruction misplacing.counted, step none misplacing with
      | .error error _, .error problem after => decide (error = problem ∧
          error.isRecoverable = true ∧ after.status = .running ∧
          after.current.toOption = some instruction)
      | _, _ => false
    | .error _ => false) = true := by
    decide +kernel
  split at checked
  next instruction decoded =>
    split at checked
    next error failed problem after raised stopped =>
      obtain ⟨rfl, recoverable, running, again⟩ := of_decide_eq_true checked
      refine ⟨instruction, error, failed, after, ⟨rfl, decoded⟩, rfl, raised, recoverable, stopped,
        running, ?_⟩
      cases found : after.current with
      | ok other =>
        rw [found] at again
        cases again
        rfl
      | error other =>
        rw [found] at again
        cases again
    next => cases checked
  next => cases checked

end Engine

end StoryMachine
