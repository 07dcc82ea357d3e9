import StoryMachine.Proofs.Branching
import StoryMachine.Proofs.FailedReturns

/-! Throwing to where something was caught. A catch stores the depth of the call stack, and a throw
cuts the stack to that depth and returns from there, whatever was called in between. A variable has
room for 16 bits of the depth, so this holds for the first 65535 frames; deeper down, a throw
returns from another frame, or from none. -/

namespace StoryMachine

variable {η : Type}

namespace CallStack

theorem truncate_depth (stack : CallStack) : stack.truncate stack.depth = stack := by
  rw [truncate, Nat.sub_self, List.drop_zero]

/-- Frames on top of a stack are the first to go. -/
theorem truncate_append (inner : List Frame) {stack : CallStack} {depth : Nat}
    (inside : depth ≤ stack.depth) :
    truncate ⟨inner ++ stack.frames⟩ depth = stack.truncate depth := by
  have more : inner.length + stack.frames.length - depth =
      inner.length + (stack.frames.length - depth) := Nat.add_sub_assoc inside _
  simp only [truncate, CallStack.depth, List.length_append, more, List.drop_append]
  simp

end CallStack

namespace Machine

def deeper (machine : Machine η) (inner : List Frame) : Machine η :=
  { machine with stack := ⟨inner ++ machine.stack.frames⟩ }

theorem depth_deeper (machine : Machine η) (inner : List Frame) :
    (machine.deeper inner).stack.depth = inner.length + machine.stack.depth :=
  List.length_append

/-- Without its further frames, the machine is as it was. -/
theorem truncate_deeper (machine : Machine η) (inner : List Frame) {depth : Nat}
    (inside : depth ≤ machine.stack.depth) :
    { machine.deeper inner with stack := (machine.deeper inner).stack.truncate depth } =
      { machine with stack := machine.stack.truncate depth } := by
  simp only [deeper, CallStack.truncate_append inner inside]

end Machine

namespace Engine

variable {machine caught : Machine η} {number depth : Nat} {value token : UInt16}

/-- The value of a variable is all that a write of it can differ in. -/
theorem writeVariable_inj {first second : UInt16}
    (here : writeVariable number first machine = .ok () caught)
    (there : writeVariable number second machine = .ok () caught) : first = second := by
  by_cases own : number < firstGlobal
  · cases frames : machine.stack.frames with
    | nil =>
      simp only [writeVariable, if_pos own, updateTop, updateStack, CallStack.modifyTop,
        frames] at here
      cases here
    | cons frame outer =>
      rw [writeVariable_own frames own] at here there
      split at here
      next present =>
        rw [if_pos present] at there
        cases here
        have same : frame.assigned number second = frame.assigned number first := by
          injection there with _ state
          injection congrArg (fun machine : Machine η => machine.stack.frames) state
        have one := Frame.peekVariable_assigned present first frame.pc
        have other := Frame.peekVariable_assigned present second frame.pc
        rw [same] at other
        exact Except.ok.inj (one.symm.trans other)
      next => cases here
  · rw [writeVariable_global own] at here there
    split at here
    next inside =>
      rw [if_pos inside] at there
      cases here
      have sized := Nat.lt_of_lt_of_le inside machine.story.memory.mark_le_size
      have same : machine.story.memory.putWord (machine.story.globalAddress number) second =
          machine.story.memory.putWord (machine.story.globalAddress number) first := by
        injection there with _ state
        exact congrArg (fun machine : Machine η => machine.story.memory) state
      rw [← Memory.wordAt_putWord sized first, ← same, Memory.wordAt_putWord sized second]
    next => cases here

/-- A return does not look at the evaluation stack of the frame that it leaves. -/
theorem returnValue_popped (machine : Machine η) (count : Nat) (value : UInt16) :
    returnValue value (machine.popped count) = returnValue value machine := by
  cases frames : machine.stack.frames with
  | nil =>
    have same : machine.popped count = machine := by
      obtain ⟨story, config, host, ⟨frames⟩⟩ := machine
      cases frames
      rfl
    rw [same]
  | cons frame outer =>
    have frames' : (machine.popped count).stack.frames = frame.popped count :: outer := by
      rw [Machine.popped_of_active frames]
    cases outer with
    | nil =>
      rw [returnValue_of_outermost frames, returnValue_of_outermost frames']
      rfl
    | cons caller outer =>
      rw [returnValue_of_called frames, returnValue_of_called frames']
      rfl

/-- A throw to a depth below further frames returns from the frame there. -/
theorem throwTo_deeper (positive : 0 < depth) (inside : depth ≤ machine.stack.depth)
    (inner : List Frame) (value : UInt16) :
    throwTo depth value (machine.deeper inner) =
      returnValue value { machine with stack := machine.stack.truncate depth } := by
  have reached : ¬ (depth = 0 ∨ (machine.deeper inner).stack.depth < depth) := by
    rw [Machine.depth_deeper]
    omega
  rw [throwTo_of_inside reached, Machine.truncate_deeper machine inner inside]

/-- It does not matter what the frame that throws has taken off its evaluation stack. -/
theorem throwTo_deeper_popped (positive : 0 < machine.stack.depth) (inner : List Frame)
    (count : Nat) (value : UInt16) :
    throwTo machine.stack.depth value ((machine.deeper inner).popped count) =
      returnValue value machine := by
  have whole : { machine with stack := machine.stack.truncate machine.stack.depth } = machine := by
    rw [CallStack.truncate_depth]
  cases inner with
  | nil =>
    have length : (machine.popped count).stack.depth = machine.stack.depth :=
      List.length_modifyHead
    have same : (machine.popped count).stack.truncate machine.stack.depth =
        (machine.popped count).stack := by
      rw [← length, CallStack.truncate_depth]
    have reached : ¬ (machine.stack.depth = 0 ∨
        (machine.popped count).stack.depth < machine.stack.depth) := by omega
    change throwTo machine.stack.depth value (machine.popped count) = _
    rw [throwTo_of_inside reached, same]
    exact returnValue_popped machine count value
  | cons frame rest =>
    have within : (machine.deeper (frame :: rest)).popped count =
        machine.deeper (frame.popped count :: rest) := rfl
    rw [within, throwTo_deeper positive (Nat.le_refl _), whole]

/-- A return never fails as a throw to no frame does. -/
theorem code_ne_of_returnValue {error : Error} {failed : Machine η}
    (raised : returnValue value machine = .error error failed) : error.code ≠ .invalidThrow := by
  intro same
  have kind : error.code ∈ _ := ofResult_returnValue value raised
  rw [same] at kind
  exact absurd kind (by decide)

section Catching

variable [Host η] {catcher : Instruction} {store : Store} {next : Continuation}

/-- A return tells how many frames there were. -/
theorem depth_eq_of_same_return (positive : 0 < depth) (inside : depth ≤ machine.stack.depth)
    (same : returnValue value { machine with stack := machine.stack.truncate depth } =
      returnValue value machine) : depth = machine.stack.depth := by
  have active : machine.stack.isEmpty = false := by
    rw [← CallStack.truncate_depth machine.stack]
    exact CallStack.isEmpty_truncate (by omega)
  let cut : Machine η := { machine with stack := machine.stack.truncate depth }
  have cut_depth : cut.stack.depth = depth := CallStack.depth_truncate inside
  have cut_active : cut.stack.isEmpty = false := CallStack.isEmpty_truncate (by omega)
  have left := depth_returnValue cut_active value
  have right := depth_returnValue active value
  rw [same, cut_depth] at left
  exact left.symm.trans right

/-- A catch stores the depth of the stack, as far as 16 bits tell it. -/
theorem token_of_catch (means : catcher.opcode.operation? = some .catchFrame)
    (names : catcher.store = some store) (ran : dispatch catcher machine = .ok next caught)
    (stored : writeVariable store.target.toNat token machine = .ok () caught) :
    token.toNat = machine.stack.depth % 65536 := by
  rw [dispatch_of_available _ means rfl, perform, catchFrame, get_bind, finishWith, storeResult,
    names] at ran
  obtain ⟨⟨⟩, after, written, ended⟩ := exists_of_bind_ok ran
  cases ended
  rw [writeVariable_inj stored written, UInt16.toNat_ofNat']

theorem depth_of_written (stored : writeVariable number token machine = .ok () caught) :
    caught.stack.depth = machine.stack.depth :=
  ((quiet_writeVariable number token).of_ok stored).sameBelow.depth_eq

/-- The instruction to throw takes the value and the token from its operands. -/
theorem dispatch_throw {thrower : Instruction} {popped : Machine η} {inner : List Frame}
    {rest : List UInt16} (means : thrower.opcode.operation? = some .throwTo)
    (late : .v5 ≤ machine.version)
    (evaluated : evaluate thrower 2 (machine.deeper inner) = .ok ⟨value :: token :: rest⟩ popped)
    (whole : token.toNat = machine.stack.depth) (positive : 0 < machine.stack.depth) :
    dispatch thrower (machine.deeper inner) = returnValue value machine := by
  have available : Operation.throwTo.isAvailable (machine.deeper inner).version = true :=
    decide_eq_true late
  obtain ⟨-, rfl, -⟩ := evaluate_eq_ok evaluated
  rw [dispatch_of_available _ means available, perform, throwValue, bind_of_ok evaluated]
  change throwTo token.toNat value _ = _
  rw [whole]
  exact throwTo_deeper_popped positive inner _ value

/-- A throw with the token of a catch, after any further calls, does what a return in the frame that
caught would have done right after the catch, if and only if there were at most 65535 frames then.
Below more frames the token is the depth modulo 65536: if that is 0, the throw fails, and otherwise
it returns from the frame at that depth. The throw may be an instruction that has the token and the
value from its operands. -/
theorem throw_returns_from_catcher (means : catcher.opcode.operation? = some .catchFrame)
    (names : catcher.store = some store) (ran : dispatch catcher machine = .ok next caught)
    (stored : writeVariable store.target.toNat token machine = .ok () caught)
    (inner : List Frame) (value : UInt16) :
    let depth := machine.stack.depth
    let thrown := throwTo token.toNat value (caught.deeper inner)
    (thrown = returnValue value caught ↔ 0 < depth ∧ depth < 65536) ∧
    ((∃ error failed, thrown = .error error failed ∧ error.code = .invalidThrow) ↔
      depth % 65536 = 0) ∧
    (depth % 65536 ≠ 0 → thrown =
      returnValue value { caught with stack := caught.stack.truncate (depth % 65536) }) ∧
    ∀ thrower rest popped, thrower.opcode.operation? = some .throwTo → .v5 ≤ machine.version →
      evaluate thrower 2 (caught.deeper inner) = .ok ⟨value :: token :: rest⟩ popped →
      0 < depth → depth < 65536 →
      dispatch thrower (caught.deeper inner) = returnValue value caught := by
  intro depth thrown
  have token_eq : token.toNat = depth % 65536 := token_of_catch means names ran stored
  have depth_eq : caught.stack.depth = depth := depth_of_written stored
  have inside : depth % 65536 ≤ caught.stack.depth := depth_eq ▸ Nat.mod_le depth 65536
  have cut (within : depth % 65536 ≠ 0) : thrown =
      returnValue value { caught with stack := caught.stack.truncate (depth % 65536) } := by
    rw [← token_eq] at inside within ⊢
    exact throwTo_deeper (Nat.pos_of_ne_zero within) inside inner value
  have refused (none : depth % 65536 = 0) : thrown =
      .error (.throwOutOfRange token.toNat (caught.deeper inner).stack.depth)
        (caught.deeper inner) :=
    throwTo_of_outside (.inl (token_eq.trans none)) value
  refine ⟨⟨?_, ?_⟩, ⟨?_, ?_⟩, cut, ?_⟩
  · intro same
    by_cases none : depth % 65536 = 0
    · rw [refused none] at same
      exact absurd rfl (code_ne_of_returnValue same.symm)
    · rw [cut none] at same
      have whole := depth_eq_of_same_return (Nat.pos_of_ne_zero none) inside same
      omega
  · rintro ⟨positive, bounded⟩
    have whole : depth % 65536 = depth := Nat.mod_eq_of_lt bounded
    rw [cut (by omega), whole, ← depth_eq, CallStack.truncate_depth]
  · rintro ⟨error, failed, raised, code⟩
    by_contra within
    rw [cut within] at raised
    exact code_ne_of_returnValue raised code
  · intro none
    exact ⟨_, _, refused none, rfl⟩
  · intro thrower rest popped meansThrow late evaluated positive bounded
    have version : caught.version = machine.version :=
      ((quiet_writeVariable _ token).of_ok stored).story.version
    have whole : token.toNat = caught.stack.depth := by
      rw [token_eq, depth_eq, Nat.mod_eq_of_lt bounded]
    exact dispatch_throw meansThrow (version ▸ late) evaluated whole (depth_eq ▸ positive)

end Catching

def catching : Instruction where
  address := 0x40
  opcode := .ofByte .v5 0xb9
  operands := []
  store := some ⟨0x41, 0x10⟩
  branch := none
  next := 0x42

def throwing (token : UInt16) : Instruction where
  address := 0x52
  opcode := .ofByte .v5 0xdc
  operands := [⟨.smallConstant, 7⟩, ⟨.largeConstant, token⟩]
  store := none
  branch := none
  next := 0x57

def activation : Frame :=
  { kind := .procedure, address := 0x48, pc := 0x52, locals := [], argumentCount := 0,
    returnAddress := 0x50 }

def nesting (depth : Nat) : Machine MemoryStore :=
  { Machine.ofBytes .v5 [] with stack := ⟨List.replicate depth activation⟩ }

def nestingWith (depth : Nat) (token : UInt16) : Machine MemoryStore :=
  let story := (nesting depth).story
  let memory := story.memory.putWord (story.globalAddress 0x10) token
  { nesting depth with story := { story with memory } }

theorem writeVariable_nesting (depth : Nat) (token : UInt16) :
    writeVariable 0x10 token (nesting depth) = .ok () (nestingWith depth token) := by
  have story : (nesting depth).story = (Machine.ofBytes .v5 []).story := rfl
  have inside : (nesting depth).story.globalAddress 0x10 + 1 <
      (nesting depth).story.memory.staticMark := by
    rw [story]
    decide +kernel
  rw [writeVariable_global (by decide), if_pos inside]
  rfl

theorem dispatch_catching (depth : Nat) :
    dispatch catching (nesting depth) = .ok (.goto 0x42) (nestingWith depth (.ofNat depth)) := by
  have counted : (nesting depth).stack.depth = depth := List.length_replicate
  have means : catching.opcode.operation? = some .catchFrame := rfl
  rw [dispatch_of_available _ means rfl, perform, catchFrame, get_bind, counted]
  exact bind_of_ok (writeVariable_nesting depth _)

theorem throw_returns_from_catcher_nesting :
    let caught := nestingWith 2 2
    dispatch catching (nesting 2) = .ok (.goto 0x42) caught ∧
      dispatch (throwing 2) (caught.deeper [activation]) = returnValue 7 caught ∧
      throwTo 2 7 (caught.deeper [activation, activation]) = returnValue 7 caught := by
  have means : catching.opcode.operation? = some .catchFrame := rfl
  have caught := dispatch_catching 2
  have stored := writeVariable_nesting 2 2
  have evaluated : evaluate (throwing 2) 2 ((nestingWith 2 2).deeper [activation]) =
      .ok ⟨[7, 2]⟩ ((nestingWith 2 2).deeper [activation]) := rfl
  obtain ⟨-, -, -, instruction⟩ :=
    throw_returns_from_catcher means rfl caught stored [activation] 7
  obtain ⟨returns, -, -, -⟩ :=
    throw_returns_from_catcher means rfl caught stored [activation, activation] 7
  exact ⟨caught, instruction (throwing 2) [] _ rfl (by decide) evaluated (by decide) (by decide),
    returns.mpr (by decide)⟩

/-- In 65536 calls, a catch stores 0, and a throw to that fails, where a return works. -/
theorem throw_fails_below_many_calls :
    let caught := nestingWith 65536 0
    dispatch catching (nesting 65536) = .ok (.goto 0x42) caught ∧
      writeVariable 0x10 0 (nesting 65536) = .ok () caught ∧
      dispatch (throwing 0) caught = .error (.throwOutOfRange 0 65536) caught ∧
      returnValue 7 caught =
        .ok (.goto 0x50) { caught with stack := ⟨List.replicate 65535 activation⟩ } := by
  intro caught
  have depth : caught.stack.depth = 65536 := List.length_replicate
  have frames : caught.stack.frames = activation :: activation :: List.replicate 65534 activation :=
    List.replicate_succ.trans (congrArg _ List.replicate_succ)
  refine ⟨dispatch_catching 65536, writeVariable_nesting 65536 0, ?_, ?_⟩
  · have means : (throwing 0).opcode.operation? = some .throwTo := rfl
    have evaluated : evaluate (throwing 0) 2 caught = .ok ⟨[7, 0]⟩ caught := rfl
    rw [dispatch_of_available _ means rfl, perform, throwValue, bind_of_ok evaluated, ← depth]
    exact throwTo_of_outside (.inl rfl) 7
  · rw [returnValue_of_called frames, ← List.replicate_succ]
    rfl

end Engine

end StoryMachine
