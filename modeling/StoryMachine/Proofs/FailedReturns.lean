import StoryMachine.Proofs.ErrorRecovery
import StoryMachine.Proofs.SameGame
import StoryMachine.Proofs.UpdateErrors

/-! Returns that fail. A frame is taken off the stack before its result is stored for the caller,
and it is not put back if the caller has no place for the result. Execution then goes on in the
caller, at the address after the instruction of the routine that it called. -/

namespace StoryMachine

namespace CallStack

theorem depth_truncate {stack : CallStack} {depth : Nat} (inside : depth ≤ stack.depth) :
    (stack.truncate depth).depth = depth := by
  simp only [truncate, CallStack.depth, List.length_drop] at inside ⊢
  omega

theorem isEmpty_truncate {stack : CallStack} {depth : Nat}
    (inside : ¬ (depth = 0 ∨ stack.depth < depth)) : (stack.truncate depth).isEmpty = false := by
  have kept : (stack.truncate depth).depth = depth := depth_truncate (by omega)
  rw [isEmpty, List.isEmpty_eq_false_iff]
  intro empty
  rw [CallStack.depth, empty, List.length_nil] at kept
  omega

theorem truncate_truncate {stack : CallStack} {depth fewer : Nat} (inside : depth ≤ stack.depth)
    (less : fewer ≤ depth) : (stack.truncate depth).truncate fewer = stack.truncate fewer := by
  have kept := depth_truncate inside
  rw [truncate, kept, truncate, truncate, List.drop_drop]
  congr 2
  omega

theorem truncate_of_cons {frame : Frame} {outer : List Frame} {stack : CallStack}
    (frames : stack.frames = frame :: outer) : stack.truncate (stack.depth - 1) = ⟨outer⟩ := by
  have one : stack.depth - (stack.depth - 1) = 1 := by
    simp only [CallStack.depth, frames, List.length_cons]
    omega
  rw [truncate, one, frames, List.drop_one, List.tail_cons]

theorem TopChanged.exists_top {before after : CallStack} (changed : TopChanged before after)
    {frame : Frame} {outer : List Frame} (frames : before.frames = frame :: outer) :
    ∃ top, after.frames = top :: outer ∧ frame.SameActivation top := by
  cases changed with
  | same => exact ⟨frame, frames, .refl frame⟩
  | @changed _ top activation _ =>
    cases frames
    exact ⟨top, rfl, activation⟩

end CallStack

variable {η : Type}

def Machine.RefusesResult (machine : Machine η) : Prop :=
  ∃ frame caller outer store, machine.stack.frames = frame :: caller :: outer ∧
    frame.kind = .function store ∧ ¬ machine.story.Writable caller store.target.toNat

theorem Machine.refusesResult_iff {machine : Machine η} {frame caller : Frame} {outer : List Frame}
    (frames : machine.stack.frames = frame :: caller :: outer) :
    machine.RefusesResult ↔ ∃ store, frame.kind = .function store ∧
      ¬ machine.story.Writable caller store.target.toNat := by
  constructor
  · rintro ⟨frame', caller', outer', store, frames', kind, unwritable⟩
    obtain ⟨rfl, rest⟩ := List.cons.inj (frames.symm.trans frames')
    obtain ⟨rfl, -⟩ := List.cons.inj rest
    exact ⟨store, kind, unwritable⟩
  · rintro ⟨store, kind, unwritable⟩
    exact ⟨frame, caller, outer, store, frames, kind, unwritable⟩

def Error.OfResult (error : Error) : Prop :=
  error.code ∈ [ErrorCode.invalidAddress, .invalidLocalVariable, .noFrame, .invalidReturn]

instance (error : Error) : Decidable error.OfResult :=
  inferInstanceAs (Decidable (error.code ∈ _))

namespace Engine

section Kinds

theorem ofResult_writeVariable (number : Nat) (value : UInt16) :
    FailsOnly (fun _ error => error.OfResult) (writeVariable number value : Engine η Unit) := by
  intro before error after failed
  by_cases own : number < firstGlobal
  · cases frames : before.stack.frames with
    | nil =>
      simp only [writeVariable, if_pos own, updateTop, updateStack, CallStack.modifyTop,
        frames] at failed
      cases failed
      decide
    | cons frame outer =>
      rw [writeVariable_own frames own] at failed
      split at failed
      next => cases failed
      next =>
        cases failed
        exact .tail _ (.head _)
  · rw [writeVariable_global own] at failed
    split at failed
    next => cases failed
    next =>
      cases failed
      exact .head _

theorem ofResult_returnValue (value : UInt16) :
    FailsOnly (fun _ error => error.OfResult) (returnValue value : Engine η Continuation) := by
  have popped : FailsOnly (fun _ error => error.OfResult)
      (updateStack (·.pop) : Engine η Frame) := by
    intro before error after failed
    cases frames : before.stack.frames with
    | nil =>
      simp only [updateStack, CallStack.pop, frames] at failed
      cases failed
      decide
    | cons frame outer =>
      simp only [updateStack, CallStack.pop, frames] at failed
      cases failed
  have unframed : Error.returnWithoutFrame.OfResult := by decide
  refine failsOnly_get.bind fun machine => ?_
  refine FailsOnly.ite_bind (failsOnly_throw fun _ => unframed) fun _ => ?_
  refine popped.bind fun frame => ?_
  refine failsOnly_get.bind fun machine => ?_
  refine FailsOnly.ite (failsOnly_pure _) ?_
  split
  · exact (ofResult_writeVariable _ value).bind fun _ => failsOnly_pure _
  · exact failsOnly_pure _
  · exact failsOnly_pure _

end Kinds

variable {machine : Machine η}

/-- A return fails exactly if the caller has no place for the result. By then the frame is gone. -/
theorem returnValue_cases (active : machine.stack.isEmpty = false) (value : UInt16) :
    (machine.RefusesResult ∧ ∃ error, error.isRecoverable = true ∧ returnValue value machine =
      .error error { machine with stack := machine.stack.truncate (machine.stack.depth - 1) }) ∨
    (¬ machine.RefusesResult ∧ ∃ next after, returnValue value machine = .ok next after) := by
  cases frames : machine.stack.frames with
  | nil => simp [CallStack.isEmpty, frames] at active
  | cons frame outer =>
    rw [CallStack.truncate_of_cons frames]
    cases outer with
    | nil =>
      refine .inr ⟨?_, _, _, returnValue_of_outermost frames value⟩
      rintro ⟨frame', caller, outer, store, frames', -⟩
      cases frames.symm.trans frames'
    | cons caller outer =>
      rw [Machine.refusesResult_iff frames, returnValue_of_called frames]
      cases kind : frame.kind with
      | procedure =>
        refine .inr ⟨?_, _, _, rfl⟩
        rintro ⟨store, same, -⟩
        cases same
      | interrupt =>
        refine .inr ⟨?_, _, _, rfl⟩
        rintro ⟨store, same, -⟩
        cases same
      | function store =>
        by_cases writable : machine.story.Writable caller store.target.toNat
        · have lasting : { machine with stack := ⟨caller :: outer⟩ }.story.Writable caller
              store.target.toNat := writable
          obtain ⟨after, written⟩ := writeVariable_of_writable rfl lasting value
          refine .inr ⟨?_, _, after, bind_of_ok written⟩
          rintro ⟨store', same, unwritable⟩
          cases same
          exact unwritable writable
        · have lasting : ¬ { machine with stack := ⟨caller :: outer⟩ }.story.Writable caller
              store.target.toNat := writable
          obtain ⟨error, failed, recoverable⟩ := writeVariable_of_not_writable rfl lasting value
          exact .inl ⟨⟨store, rfl, writable⟩, error, recoverable, bind_of_error failed⟩

theorem recoverable_of_returnValue (active : machine.stack.isEmpty = false) {value : UInt16}
    {error : Error} {failed : Machine η}
    (raised : returnValue value machine = .error error failed) :
    error.isRecoverable = true := by
  rcases returnValue_cases active value with ⟨-, error', recoverable, same⟩ | ⟨-, next, after, ran⟩
  · cases raised.symm.trans same
    exact recoverable
  · cases raised.symm.trans ran

theorem throwTo_of_outside {depth : Nat} (outside : depth = 0 ∨ machine.stack.depth < depth)
    (value : UInt16) :
    throwTo depth value machine = .error (.throwOutOfRange depth machine.stack.depth) machine := by
  rw [throwTo, get_bind, if_pos outside]
  rfl

/-- A throw to a depth that there is returns from the frame at that depth. -/
theorem throwTo_of_inside {depth : Nat} (inside : ¬ (depth = 0 ∨ machine.stack.depth < depth))
    (value : UInt16) :
    throwTo depth value machine =
      returnValue value { machine with stack := machine.stack.truncate depth } := by
  rw [throwTo, get_bind, if_neg inside]
  rfl

/-- A throw to a depth that there is fails exactly if the return from there does. By then all frames
from that depth on are gone. -/
theorem throwTo_cases {depth : Nat} (inside : ¬ (depth = 0 ∨ machine.stack.depth < depth))
    (value : UInt16) :
    let cut := { machine with stack := machine.stack.truncate depth }
    (cut.RefusesResult ∧ ∃ error, error.isRecoverable = true ∧ throwTo depth value machine =
      .error error { machine with stack := machine.stack.truncate (depth - 1) }) ∨
    (¬ cut.RefusesResult ∧ ∃ next after, throwTo depth value machine = .ok next after) := by
  intro cut
  have kept : cut.stack.depth = depth := CallStack.depth_truncate (by omega)
  have active : cut.stack.isEmpty = false := CallStack.isEmpty_truncate inside
  have shorter : cut.stack.truncate (cut.stack.depth - 1) = machine.stack.truncate (depth - 1) := by
    rw [kept]
    exact CallStack.truncate_truncate (by omega) (by omega)
  have returned := returnValue_cases active value
  rw [shorter] at returned
  rw [throwTo_of_inside inside]
  exact returned

theorem recoverable_of_throwTo {depth : Nat} {value : UInt16} {error : Error} {failed : Machine η}
    (raised : throwTo depth value machine = .error error failed) : error.isRecoverable = true := by
  by_cases outside : depth = 0 ∨ machine.stack.depth < depth
  · rw [throwTo_of_outside outside] at raised
    cases raised
    rfl
  · rw [throwTo_of_inside outside] at raised
    exact recoverable_of_returnValue (CallStack.isEmpty_truncate outside) raised

section Degrading

variable [Host η] {failed : Machine η} {frame : Frame} {outer : List Frame} {error : Error}

/-- An instruction that failed is passed over in the frame that the failure left innermost. -/
theorem degrade_advance_of_accepts {instruction : Instruction}
    (frames : failed.stack.frames = frame :: outer) (recoverable : error.isRecoverable = true)
    (policy : failed.config.errorPolicy ≠ .abort) (accepts : failed.AcceptsResult instruction) :
    ∃ after top, (degrade instruction error >>= advance) failed = .ok () after ∧
      after.stack.frames = top :: outer ∧ frame.SameActivation { top with pc := frame.pc } ∧
      top.pc = instruction.next := by
  obtain ⟨host, reported, told⟩ := report_of_recoverable recoverable policy
  have accepts' : { failed with host, reported }.AcceptsResult instruction := accepts
  obtain ⟨stored, ran⟩ := storeResult_of_accepts accepts' 0
  have silent := quiet_storeResult instruction 0 { failed with host, reported }
  rw [ran] at silent
  obtain ⟨top, frames', activation⟩ := silent.stack.exists_top frames
  have finished : degrade instruction error failed = .ok (.goto instruction.next) stored := by
    rw [degrade, bind_of_ok told]
    exact bind_of_ok ran
  rw [bind_of_ok finished]
  refine ⟨_, _, setPc_of_active frames' instruction.next, rfl, ?_, rfl⟩
  exact { activation with pc := rfl }

/-- What failed returns and throws do to the stack. A return fails exactly if the caller has no
place for the result, and then the frame that returned is gone; so it is with a throw, which
returns from the frame at its depth. Only a throw to a depth that there is not leaves the stack
alone. An instruction that failed so is passed over in the innermost of the frames that are left.
-/
theorem failed_return_loses_frames {machine : Machine η} (active : machine.stack.isEmpty = false)
    (value : UInt16) (depth : Nat) :
    let cut (depth : Nat) : Machine η := { machine with stack := machine.stack.truncate depth }
    ((machine.RefusesResult ∧ ∃ error, error.isRecoverable = true ∧
        returnValue value machine = .error error (cut (machine.stack.depth - 1))) ∨
      (¬ machine.RefusesResult ∧ ∃ next after, returnValue value machine = .ok next after)) ∧
    (depth = 0 ∨ machine.stack.depth < depth →
      throwTo depth value machine = .error (.throwOutOfRange depth machine.stack.depth) machine) ∧
    (¬ (depth = 0 ∨ machine.stack.depth < depth) →
      ((cut depth).RefusesResult ∧ ∃ error, error.isRecoverable = true ∧
        throwTo depth value machine = .error error (cut (depth - 1))) ∨
      (¬ (cut depth).RefusesResult ∧ ∃ next after, throwTo depth value machine = .ok next after)) ∧
    ∀ error failed, (returnValue value machine = .error error failed ∨
        throwTo depth value machine = .error error failed) →
      ∃ frame outer, failed.stack.frames = frame :: outer ∧
        ∀ instruction, machine.config.errorPolicy ≠ .abort → failed.AcceptsResult instruction →
          ∃ after top, (degrade instruction error >>= advance) failed = .ok () after ∧
            after.stack.frames = top :: outer ∧
            frame.SameActivation { top with pc := frame.pc } ∧ top.pc = instruction.next := by
  intro cut
  refine ⟨returnValue_cases active value, fun outside => throwTo_of_outside outside value,
    fun inside => throwTo_cases inside value, ?_⟩
  intro error failed raised
  have finished : Finished machine (.error error failed) := by
    rcases raised with raised | raised
    · exact raised ▸ finishes_returnValue value machine
    · exact raised ▸ finishes_throwTo depth value machine
  have recoverable := raised.elim (recoverable_of_returnValue active) recoverable_of_throwTo
  have config : failed.config = machine.config := (Machine.SameSettings.finished finished).config
  cases frames : failed.stack.frames with
  | nil =>
    have inside := Finished.active_of_error active finished
    simp [CallStack.isEmpty, frames] at inside
  | cons frame outer =>
    refine ⟨frame, outer, rfl, ?_⟩
    intro instruction policy accepts
    exact degrade_advance_of_accepts frames recoverable (config ▸ policy) accepts

end Degrading

/-- A machine of version 3 in a routine at 0x50 that was called for a fifth local variable, which
its caller does not have. The routine is about to return true. -/
def stranding : Machine MemoryStore :=
  (Machine.ofBytes .v3 [(0x40, 0xe0), (0x41, 0x3f), (0x43, 0x28), (0x44, 5), (0x51, 0xb0),
    (0x52, 0xb2)]).afterSteps [none]

def returnTrue : Instruction where
  address := 0x51
  opcode := .ofByte .v3 0xb0
  operands := []
  store := none
  branch := none
  next := 0x52

theorem failed_return_loses_frames_stranding :
    stranding.stack.isEmpty = false ∧ stranding.RefusesResult ∧
      throwTo 3 1 stranding = .error (.throwOutOfRange 3 2) stranding ∧
      ∃ error failed, returnValue 1 stranding = .error error failed ∧ failed.stack.depth = 1 ∧
        ∃ after top, (degrade returnTrue error >>= advance) failed = .ok () after ∧
          after.stack.frames = [top] ∧ top.pc = 0x52 := by
  have active : stranding.stack.isEmpty = false := by decide +kernel
  have depth : stranding.stack.depth = 2 := by decide +kernel
  obtain ⟨returns, outside, -, passes⟩ := failed_return_loses_frames active 1 3
  have throws := outside (.inr (by omega))
  rw [depth] at throws
  rcases returns with ⟨refuses, error, -, raised⟩ | ⟨-, next, after, ran⟩
  · obtain ⟨frame, outer, frames, degraded⟩ := passes error _ (.inl raised)
    have one : (stranding.stack.truncate (stranding.stack.depth - 1)).depth = 1 := by
      rw [CallStack.depth_truncate (Nat.sub_le _ _), depth]
    obtain rfl : outer = [] := by
      rw [CallStack.depth, frames, List.length_cons] at one
      exact List.length_eq_zero_iff.mp (by omega)
    obtain ⟨after, top, passed, frames', -, pc⟩ := degraded returnTrue (by decide +kernel)
      ⟨frame, by rw [frames]; rfl, by simp [returnTrue]⟩
    exact ⟨active, refuses, throws, error, _, raised, one, after, top, passed, frames', pc⟩
  · have fails : (failure? (returnValue 1 stranding)).isSome = true := by decide +kernel
    rw [ran] at fails
    cases fails

/-- The return fails with the frame of the routine gone, and the step that carries on after it
moves the caller into the code of the routine. -/
theorem return_fails_stranding :
    let failed := finalState (returnValue 1 stranding)
    stranding.stack.frames.map (fun frame => (frame.address, frame.pc)) =
        [(0x50, 0x51), (0x40, 0x40)] ∧
      failure? (returnValue 1 stranding) = some (.localOutOfRange .write 5 0) ∧
      failed.stack ≠ stranding.stack ∧
      failed.stack.frames.map (fun frame => (frame.address, frame.pc)) = [(0x40, 0x40)] ∧
      failure? (throwTo 2 1 stranding) = some (.localOutOfRange .write 5 0) ∧
      (finalState (throwTo 2 1 stranding)).stack = failed.stack ∧
      (stranding.afterSteps [none]).stack.frames.map (fun frame => (frame.address, frame.pc)) =
        [(0x40, 0x52)] := by
  decide +kernel

end Engine

end StoryMachine
