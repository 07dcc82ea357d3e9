import StoryMachine.Machine.Variables
import StoryMachine.Proofs.Running
import StoryMachine.Proofs.StoredBytes

/-! Writing variables: when it works, and what it changes. -/

namespace StoryMachine

/-- With this frame innermost, a variable can be written: the frame has it, or it is a global in
dynamic memory. -/
def Story.Writable (story : Story) (frame : Frame) (number : Nat) : Prop :=
  if number < firstGlobal then number ≤ frame.locals.length
  else story.globalAddress number + 1 < story.memory.staticMark

instance (story : Story) (frame : Frame) (number : Nat) :
    Decidable (story.Writable frame number) :=
  inferInstanceAs (Decidable (if number < firstGlobal then _ else _))

def Frame.assigned (frame : Frame) (number : Nat) (value : UInt16) : Frame :=
  if number = 0 then frame.push value
  else { frame with locals := frame.locals.set (number - 1) value }

theorem Frame.write_eq (frame : Frame) (number : Nat) (value : UInt16) :
    frame.write number value =
      if number ≤ frame.locals.length then .ok (frame.assigned number value)
      else .error (.localOutOfRange .write number frame.locals.length) := by
  rw [write, assigned]
  split
  next zero => simp [zero]
  next => rfl

/-- A frame has what is written to it, wherever it goes on. -/
theorem Frame.peekVariable_assigned {frame : Frame} {number : Nat}
    (present : number ≤ frame.locals.length) (value : UInt16) (pc : Nat) :
    { frame.assigned number value with pc }.peekVariable number = .ok value := by
  by_cases zero : number = 0
  · simp [peekVariable, assigned, zero, push, peek]
  · have inside : number - 1 < frame.locals.length := by omega
    simp [peekVariable, assigned, zero, localValue, inside]

/-- Where globals are is in the header, and a write outside of it does not move them. -/
theorem Story.globalAddress_putWord {story : Story} {address : Nat} (outside : headerSize ≤ address)
    (inside : address + 1 < story.memory.size) (value : UInt16) (number : Nat) :
    { story with memory := story.memory.putWord address value }.globalAddress number =
      story.globalAddress number := by
  have table : (story.memory.putWord address value).wordAt 0x0c = story.memory.wordAt 0x0c := by
    simp only [headerSize] at outside
    rw [Memory.wordAt_eq, Memory.byteAt_putWord inside, Memory.byteAt_putWord inside,
      if_neg (by omega), if_neg (by omega), if_neg (by omega), if_neg (by omega), Memory.wordAt_eq]
  have moved : (story.memory.putWord address value).headerWord .globalTable =
      story.memory.headerWord .globalTable := table
  rw [globalAddress, globalAddress, moved]

/-- A global that is written has the value, and the others have what they had. -/
theorem Story.global_putWord {story : Story} {number other : Nat} (shared : firstGlobal ≤ number)
    (shared' : firstGlobal ≤ other) (outside : headerSize ≤ story.globalAddress number)
    (inside : story.globalAddress number + 1 < story.memory.size) (value : UInt16) :
    { story with
      memory := story.memory.putWord (story.globalAddress number) value }.global other =
      if other = number then .ok value else story.global other := by
  have size : (story.memory.putWord (story.globalAddress number) value).size =
      story.memory.size := by
    rw [Memory.putWord, Memory.size_put, Memory.size_put]
  rw [global, globalAddress_putWord outside inside, Memory.readWord, size]
  by_cases same : other = number
  · rw [if_pos same, same, if_pos inside, Memory.wordAt_putWord inside]
  · have apart : story.globalAddress other + 1 < story.globalAddress number ∨
        story.globalAddress number + 1 < story.globalAddress other := by
      simp only [globalAddress]
      omega
    have word : (story.memory.putWord (story.globalAddress number) value).wordAt
        (story.globalAddress other) = story.memory.wordAt (story.globalAddress other) := by
      rw [Memory.wordAt_eq, Memory.byteAt_putWord inside, Memory.byteAt_putWord inside,
        if_neg (by omega), if_neg (by omega), if_neg (by omega), if_neg (by omega),
        Memory.wordAt_eq]
    rw [if_neg same, word]
    rfl

namespace Engine

variable {η : Type} {machine : Machine η} {frame : Frame} {outer : List Frame} {number : Nat}

theorem updateTop_of_ok {change : Frame → Except Error (α × Frame)} {value : α} {after : Frame}
    (frames : machine.stack.frames = frame :: outer) (changed : change frame = .ok (value, after)) :
    updateTop change machine = .ok value { machine with stack := ⟨after :: outer⟩ } := by
  simp only [updateTop, updateStack, CallStack.modifyTop, frames, changed, bind, Except.bind, pure,
    Except.pure]

theorem updateTop_of_error {change : Frame → Except Error (α × Frame)} {error : Error}
    (frames : machine.stack.frames = frame :: outer) (failed : change frame = .error error) :
    updateTop change machine = .error error machine := by
  simp only [updateTop, updateStack, CallStack.modifyTop, frames, failed, bind, Except.bind]

theorem setPc_of_active (frames : machine.stack.frames = frame :: outer) (address : Nat) :
    setPc address machine =
      .ok () { machine with stack := ⟨{ frame with pc := address } :: outer⟩ } :=
  updateTop_of_ok frames rfl

theorem writeVariable_own (frames : machine.stack.frames = frame :: outer)
    (own : number < firstGlobal) (value : UInt16) :
    writeVariable number value machine =
      if number ≤ frame.locals.length then
        .ok () { machine with stack := ⟨frame.assigned number value :: outer⟩ }
      else .error (.localOutOfRange .write number frame.locals.length) machine := by
  rw [writeVariable, if_pos own]
  split
  next has =>
    apply updateTop_of_ok frames
    rw [Frame.write_eq, if_pos has]
    rfl
  next lacks =>
    apply updateTop_of_error frames
    rw [Frame.write_eq, if_neg lacks]
    rfl

theorem writeVariable_global (shared : ¬ number < firstGlobal) (value : UInt16) :
    writeVariable number value machine =
      if machine.story.globalAddress number + 1 < machine.story.memory.staticMark then
        .ok () { machine with story := { machine.story with
          memory := machine.story.memory.putWord (machine.story.globalAddress number) value } }
      else .error (.wordWriteOutside (machine.story.globalAddress number)
        machine.story.memory.staticMark) machine := by
  rw [writeVariable, if_neg shared]
  have change : Update.setGlobal number value machine.story =
      Update.writeWord (machine.story.globalAddress number) value machine.story := rfl
  split
  next inside =>
    simp only [update, change, Update.writeWord, Update.modifyMemory, Memory.writeWord, inside,
      ↓reduceIte]
  next outside =>
    simp only [update, change, Update.writeWord, Update.modifyMemory, Memory.writeWord, outside,
      ↓reduceIte]

/-- A global has no stack above it: writing it in place is writing it. -/
theorem replaceVariable_global (shared : ¬ number < firstGlobal) (value : UInt16) :
    (replaceVariable number value : Engine η Unit) = writeVariable number value := by
  rw [replaceVariable, writeVariable, if_neg shared, if_neg shared]

/-- A variable that can be written is written: in the innermost frame or in memory. -/
theorem writeVariable_of_writable (frames : machine.stack.frames = frame :: outer)
    (writable : machine.story.Writable frame number) (value : UInt16) :
    ∃ after, writeVariable number value machine = .ok () after := by
  unfold Story.Writable at writable
  split at writable
  next own => exact ⟨_, by rw [writeVariable_own frames own, if_pos writable]⟩
  next shared => exact ⟨_, by rw [writeVariable_global shared, if_pos writable]⟩

/-- A variable that cannot be written is left alone, and the error is recoverable. -/
theorem writeVariable_of_not_writable (frames : machine.stack.frames = frame :: outer)
    (unwritable : ¬ machine.story.Writable frame number) (value : UInt16) :
    ∃ error, writeVariable number value machine = .error error machine ∧
      error.isRecoverable = true := by
  unfold Story.Writable at unwritable
  split at unwritable
  next own => exact ⟨_, by rw [writeVariable_own frames own, if_neg unwritable], rfl⟩
  next shared => exact ⟨_, by rw [writeVariable_global shared, if_neg unwritable], rfl⟩

end Engine

end StoryMachine
