import StoryMachine.Proofs.Variables
import StoryMachine.Semantics.Basic

/-! Evaluating operands takes as many values off the innermost frame's stack as there are operands
that name the stack, and changes nothing else. -/

namespace StoryMachine

def Operand.pops (operand : Operand) : Bool :=
  operand.kind = .var ∧ byteOperand operand.value = 0

def Instruction.pops (instruction : Instruction) : Nat :=
  instruction.operands.countP (·.pops)

def Frame.popped (frame : Frame) (count : Nat) : Frame :=
  { frame with stack := frame.stack.drop count }

def Machine.popped (machine : Machine η) (count : Nat) : Machine η :=
  { machine with stack := ⟨machine.stack.frames.modifyHead (·.popped count)⟩ }

namespace Machine

variable {η : Type} {machine : Machine η} {frame : Frame} {outer : List Frame}

theorem popped_of_active (frames : machine.stack.frames = frame :: outer) (count : Nat) :
    machine.popped count = { machine with stack := ⟨frame.popped count :: outer⟩ } := by
  simp only [popped, frames, List.modifyHead_cons]

theorem popped_zero (machine : Machine η) : machine.popped 0 = machine := by
  obtain ⟨story, config, host, ⟨frames⟩⟩ := machine
  cases frames <;> rfl

theorem popped_popped (machine : Machine η) (first second : Nat) :
    (machine.popped first).popped second = machine.popped (first + second) := by
  obtain ⟨story, config, host, ⟨frames⟩⟩ := machine
  cases frames with
  | nil => rfl
  | cons frame outer => simp [popped, Frame.popped, List.drop_drop]

end Machine

theorem Frame.read_eq_ok {frame after : Frame} {number : Nat} {value : UInt16}
    (found : frame.read number = .ok (value, after)) :
    after = frame.popped (if number = 0 then 1 else 0) := by
  rw [read] at found
  split at found
  next zero =>
    rw [pop] at found
    split at found
    next top rest stack =>
      cases found
      simp [popped, zero, stack]
    next => cases found
  next some =>
    cases present : frame.localValue .read number with
    | ok other =>
      simp only [present, bind, Except.bind, pure, Except.pure] at found
      cases found
      simp [popped, some]
    | error error =>
      simp only [present, bind, Except.bind] at found
      cases found

namespace Engine

variable {η : Type} {before after : Machine η}

theorem readVariable_eq_ok {number : Nat} {value : UInt16}
    (read : readVariable number before = .ok value after) :
    after = before.popped (if number = 0 then 1 else 0) := by
  rw [readVariable] at read
  split at read
  next own =>
    cases frames : before.stack.frames with
    | nil =>
      simp only [updateTop, updateStack, CallStack.modifyTop, frames] at read
      cases read
    | cons frame outer =>
      cases found : frame.read number with
      | error error =>
        rw [updateTop_of_error frames found] at read
        cases read
      | ok result =>
        rw [updateTop_of_ok frames found] at read
        cases read
        rw [Machine.popped_of_active frames, ← Frame.read_eq_ok found]
  next shared =>
    have some : number ≠ 0 := by
      intro zero
      exact shared (zero ▸ by decide)
    rw [if_neg some, Machine.popped_zero]
    rw [query] at read
    split at read
    next => cases read; rfl
    next => cases read

theorem operandValue_eq_ok {operand : Operand} {value : UInt16}
    (evaluated : operandValue operand before = .ok value after) :
    after = before.popped (if operand.pops then 1 else 0) := by
  rw [operandValue] at evaluated
  cases kind : operand.kind with
  | largeConstant | smallConstant =>
    simp only [kind] at evaluated
    cases evaluated
    simp [Operand.pops, kind, Machine.popped_zero]
  | var =>
    simp only [kind] at evaluated
    simpa [Operand.pops, kind] using readVariable_eq_ok evaluated

theorem mapM_operandValue_eq_ok {operands : List Operand} {values : List UInt16}
    (evaluated : operands.mapM operandValue before = .ok values after) :
    after = before.popped (operands.countP (·.pops)) ∧ values.length = operands.length := by
  induction operands generalizing before values with
  | nil =>
    cases evaluated
    exact ⟨(Machine.popped_zero _).symm, rfl⟩
  | cons operand rest ih =>
    rw [List.mapM_cons] at evaluated
    cases here : operandValue operand before with
    | error error failed =>
      rw [bind_of_error here] at evaluated
      cases evaluated
    | ok value middle =>
      rw [bind_of_ok here] at evaluated
      cases there : rest.mapM operandValue middle with
      | error error failed =>
        rw [bind_of_error there] at evaluated
        cases evaluated
      | ok others final =>
        rw [bind_of_ok there] at evaluated
        cases evaluated
        obtain ⟨popped, length⟩ := ih there
        rw [popped, operandValue_eq_ok here, Machine.popped_popped, List.countP_cons, Nat.add_comm,
          List.length_cons, List.length_cons, length]
        exact ⟨rfl, rfl⟩

/-- Once there are enough operands, it does not matter how many were required. -/
theorem evaluate_of_enough {instruction : Instruction} {required : Nat}
    (enough : required ≤ instruction.operands.length) :
    evaluate instruction required =
      ((do return ⟨← instruction.operands.mapM operandValue⟩) : Engine η Operands) := by
  rw [evaluate, if_neg (Nat.not_lt.mpr enough)]

theorem evaluate_eq_ok {instruction : Instruction} {required : Nat} {operands : Operands}
    (evaluated : evaluate instruction required before = .ok operands after) :
    evaluate instruction 0 before = .ok operands after ∧
      after = before.popped instruction.pops ∧
      operands.values.length = instruction.operands.length := by
  by_cases enough : required ≤ instruction.operands.length
  · rw [evaluate_of_enough enough] at evaluated
    rw [evaluate_of_enough (Nat.zero_le _)]
    refine ⟨evaluated, ?_⟩
    cases ran : instruction.operands.mapM operandValue before with
    | error error failed =>
      rw [bind_of_error ran] at evaluated
      cases evaluated
    | ok values final =>
      rw [bind_of_ok ran] at evaluated
      cases evaluated
      exact mapM_operandValue_eq_ok ran
  · rw [evaluate, if_pos (Nat.lt_of_not_le enough)] at evaluated
    cases evaluated

end Engine

end StoryMachine
