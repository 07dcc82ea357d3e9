import StoryMachine.Proofs.DecodedInstructions
import StoryMachine.Proofs.Restoring
import StoryMachine.Proofs.Transitions
import StoryMachine.Proofs.Variables

/-! Two machines that play the same game: they differ in the player's flags, and in nothing else
that the game is made of. What one of them does, so does the other, as long as it stays clear of
those flags. -/

namespace StoryMachine

variable {η : Type}

namespace FlagsKept

variable {image live after : Array UInt8}

theorem word_eq (kept : FlagsKept image live after) {address : Nat}
    (clear : address + 1 < 0x10 ∨ 0x11 < address) :
    imageWord after address = imageWord image address := by
  simp only [imageWord]
  rw [kept.elsewhere address (by omega) (by omega),
    kept.elsewhere (address + 1) (by omega) (by omega)]

theorem agreeOn {memory other : Memory} (kept : FlagsKept memory.bytes live other.bytes)
    {start stop : Nat} (clear : stop ≤ 0x10 ∨ 0x12 ≤ start) : memory.AgreeOn other start stop := by
  intro place above below
  have same : other.byteAt place = memory.byteAt place :=
    kept.elsewhere place (by omega) (by omega)
  have size : other.size = memory.size := kept.size
  rw [Memory.readByte, Memory.readByte, same, size]

/-- A write away from the flags keeps them apart. -/
theorem putWord {memory other : Memory} (kept : FlagsKept memory.bytes live other.bytes)
    {address : Nat} (inside : address + 1 < memory.size)
    (clear : address + 1 < 0x10 ∨ 0x11 < address) (value : UInt16) :
    FlagsKept (memory.putWord address value).bytes live (other.putWord address value).bytes := by
  have inside' : address + 1 < other.size := by
    rw [show other.size = memory.size from kept.size]
    exact inside
  have here (place : Nat) := Memory.byteAt_putWord inside value place
  have there (place : Nat) := Memory.byteAt_putWord inside' value place
  have flags : (memory.putWord address value).wordAt 0x10 = memory.wordAt 0x10 := by
    rw [Memory.wordAt_eq, here, here, if_neg (by omega), if_neg (by omega), if_neg (by omega),
      if_neg (by omega), Memory.wordAt_eq]
  have flags' : (other.putWord address value).wordAt 0x10 = other.wordAt 0x10 := by
    rw [Memory.wordAt_eq, there, there, if_neg (by omega), if_neg (by omega), if_neg (by omega),
      if_neg (by omega), Memory.wordAt_eq]
  constructor
  · simpa [Memory.putWord, Memory.put] using kept.size
  · intro place high low
    have same : other.byteAt place = memory.byteAt place := kept.elsewhere place high low
    calc imageByte (other.putWord address value).bytes place
      _ = _ := there place
      _ = _ := by rw [same]
      _ = imageByte (memory.putWord address value).bytes place := (here place).symm
  · intro bit player
    calc (imageWord (other.putWord address value).bytes 0x10).toNat.testBit bit
      _ = (imageWord other.bytes 0x10).toNat.testBit bit := congrArg (·.toNat.testBit bit) flags'
      _ = _ := kept.player bit player
  · intro bit others
    calc (imageWord (other.putWord address value).bytes 0x10).toNat.testBit bit
      _ = (imageWord other.bytes 0x10).toNat.testBit bit := congrArg (·.toNat.testBit bit) flags'
      _ = (imageWord memory.bytes 0x10).toNat.testBit bit := kept.others bit others
      _ = _ := congrArg (·.toNat.testBit bit) flags.symm

end FlagsKept

/-- The word of a variable, if it is in memory, is not in the flags that saved games leave alone. -/
def Story.ClearOfFlags (story : Story) (number : Nat) : Prop :=
  firstGlobal ≤ number →
    story.globalAddress number + 1 < 0x10 ∨ 0x11 < story.globalAddress number

/-- Two machines are in the same state of the same game, but the second has the player's flags of an
image. -/
structure Machine.SameGame (live : Array UInt8) (first second : Machine η) : Prop where
  stack : second.stack = first.stack
  status : second.status = first.status
  format : second.story.format = first.story.format
  staticMark : second.story.memory.staticMark = first.story.memory.staticMark
  bytes : FlagsKept first.story.memory.bytes live second.story.memory.bytes

namespace Machine.SameGame

variable {live : Array UInt8} {first second : Machine η}

theorem setStack (same : SameGame live first second) (stack : CallStack) :
    SameGame live { first with stack } { second with stack } :=
  { same with stack := rfl }

theorem globalAddress (same : SameGame live first second) (number : Nat) :
    second.story.globalAddress number = first.story.globalAddress number := by
  have table : second.story.memory.headerWord .globalTable =
      first.story.memory.headerWord .globalTable :=
    same.bytes.word_eq (.inl (by decide))
  rw [Story.globalAddress, Story.globalAddress, table]

theorem putWord (same : SameGame live first second) {address : Nat}
    (inside : address + 1 < first.story.memory.staticMark)
    (clear : address + 1 < 0x10 ∨ 0x11 < address) (value : UInt16) :
    SameGame live
      { first with
        story := { first.story with memory := first.story.memory.putWord address value } }
      { second with
        story := { second.story with memory := second.story.memory.putWord address value } } :=
  { same with
    bytes := same.bytes.putWord (Nat.lt_of_lt_of_le inside first.story.memory.mark_le_size) clear
      value }

/-- Both machines write a variable alike. -/
theorem writeVariable (same : SameGame live first second) {frame : Frame} {outer : List Frame}
    {number : Nat} (frames : first.stack.frames = frame :: outer)
    (writable : first.story.Writable frame number) (clear : first.story.ClearOfFlags number)
    (value : UInt16) :
    ∃ first' second', Engine.writeVariable number value first = .ok () first' ∧
      Engine.writeVariable number value second = .ok () second' ∧ SameGame live first' second' ∧
      first'.stack.isEmpty = false := by
  have frames' : second.stack.frames = frame :: outer := same.stack ▸ frames
  unfold Story.Writable at writable
  split at writable
  next own =>
    rw [Engine.writeVariable_own frames own, Engine.writeVariable_own frames' own, if_pos writable,
      if_pos writable]
    exact ⟨_, _, rfl, rfl, same.setStack _, rfl⟩
  next shared =>
    rw [Engine.writeVariable_global shared, Engine.writeVariable_global shared, same.globalAddress,
      same.staticMark, if_pos writable, if_pos writable]
    refine ⟨_, _, rfl, rfl, same.putWord writable (clear (Nat.le_of_not_lt shared)) value, ?_⟩
    simp [CallStack.isEmpty, frames]

end Machine.SameGame

/-- A frame can hand its result over without going near the flags. There is nothing to hand over
from the outermost frame, and an interrupt routine has no one to hand it to. -/
def Machine.ReturnsClear (machine : Machine η) : Prop :=
  ∀ frame caller outer, machine.stack.frames = frame :: caller :: outer →
    match frame.kind with
    | .function store => machine.story.Writable caller store.target.toNat ∧
        machine.story.ClearOfFlags store.target.toNat
    | .procedure => True
    | .interrupt => False

namespace Engine

variable {machine : Machine η} {frame caller : Frame} {outer : List Frame}

theorem returnValue_of_outermost (frames : machine.stack.frames = [frame]) (value : UInt16) :
    returnValue value machine = .ok .quit { machine with stack := ⟨[]⟩ } := by
  have popped : updateStack (·.pop) machine = .ok frame { machine with stack := ⟨[]⟩ } := by
    simp only [updateStack, CallStack.pop, frames]
  have active : ¬ machine.stack.isEmpty = true := by simp [CallStack.isEmpty, frames]
  rw [returnValue, get_bind, if_neg active]
  exact bind_of_ok popped

theorem returnValue_of_called (frames : machine.stack.frames = frame :: caller :: outer)
    (value : UInt16) :
    returnValue value machine =
      (match frame.kind with
        | .function store => do
          writeVariable store.target.toNat value
          return .goto frame.returnAddress
        | .procedure => return .goto frame.returnAddress
        | .interrupt => return .resume frame.returnAddress value : Engine η Continuation)
        { machine with stack := ⟨caller :: outer⟩ } := by
  have popped : updateStack (·.pop) machine =
      .ok frame { machine with stack := ⟨caller :: outer⟩ } := by
    simp only [updateStack, CallStack.pop, frames]
  have active : ¬ machine.stack.isEmpty = true := by simp [CallStack.isEmpty, frames]
  rw [returnValue, get_bind, if_neg active]
  exact bind_of_ok popped

end Engine

/-- Does an instruction return from its routine when its test comes out like this? -/
def Instruction.returnsOn (instruction : Instruction) (condition : Bool) : Bool :=
  instruction.branch.any fun branch => branch.condition = condition ∧ branch.target ≤ 1

def Machine.CanFollow (machine : Machine η) (next : Continuation) : Prop :=
  next = .quit ∨ ∃ address, next = .goto address ∧ machine.stack.isEmpty = false

namespace Machine.SameGame

variable {live : Array UInt8} {first second : Machine η}

theorem returnValue (same : SameGame live first second) (active : first.stack.isEmpty = false)
    (clear : first.ReturnsClear) (value : UInt16) :
    ∃ next first' second', Engine.returnValue value first = .ok next first' ∧
      Engine.returnValue value second = .ok next second' ∧ SameGame live first' second' ∧
      first'.CanFollow next := by
  match frames : first.stack.frames with
  | [] => simp [CallStack.isEmpty, frames] at active
  | [frame] =>
    have frames' : second.stack.frames = [frame] := same.stack ▸ frames
    exact ⟨.quit, _, _, Engine.returnValue_of_outermost frames value,
      Engine.returnValue_of_outermost frames' value, same.setStack _, .inl rfl⟩
  | frame :: caller :: outer =>
    have frames' : second.stack.frames = frame :: caller :: outer := same.stack ▸ frames
    have handed := clear frame caller outer frames
    have popped := same.setStack ⟨caller :: outer⟩
    rw [Engine.returnValue_of_called frames, Engine.returnValue_of_called frames']
    cases kind : frame.kind with
    | function store =>
      simp only [kind] at handed ⊢
      obtain ⟨first', second', here, there, kept, inside⟩ :=
        popped.writeVariable rfl handed.1 handed.2 value
      exact ⟨_, first', second', bind_of_ok here, bind_of_ok there, kept, .inr ⟨_, rfl, inside⟩⟩
    | procedure => exact ⟨_, _, _, rfl, rfl, popped, .inr ⟨_, rfl, rfl⟩⟩
    | interrupt => simp only [kind] at handed

/-- Both machines branch alike. -/
theorem branchOn (same : SameGame live first second) (active : first.stack.isEmpty = false)
    {instruction : Instruction} {condition : Bool}
    (clear : instruction.returnsOn condition = true → first.ReturnsClear) :
    ∃ next first' second', Engine.branchOn instruction condition first = .ok next first' ∧
      Engine.branchOn instruction condition second = .ok next second' ∧
      SameGame live first' second' ∧ first'.CanFollow next := by
  have goes (address : Nat) : first.CanFollow (.goto address) := .inr ⟨address, rfl, active⟩
  unfold Engine.branchOn
  cases branches : instruction.branch with
  | none => exact ⟨_, first, second, rfl, rfl, same, goes _⟩
  | some branch =>
    dsimp only
    split
    next taken =>
      have leaves (low : branch.target ≤ 1) : first.ReturnsClear := by
        apply clear
        rw [Instruction.returnsOn, branches]
        simp [taken, low]
      match target : branch.target with
      | 0 => exact same.returnValue active (leaves (by omega)) 0
      | 1 => exact same.returnValue active (leaves (by omega)) 1
      | address + 2 => exact ⟨_, first, second, rfl, rfl, same, goes _⟩
    next => exact ⟨_, first, second, rfl, rfl, same, goes _⟩

theorem setPc (same : SameGame live first second) (active : first.stack.isEmpty = false)
    (address : Nat) :
    ∃ first' second', Engine.setPc address first = .ok () first' ∧
      Engine.setPc address second = .ok () second' ∧ SameGame live first' second' := by
  cases frames : first.stack.frames with
  | nil => simp [CallStack.isEmpty, frames] at active
  | cons frame outer =>
    have frames' : second.stack.frames = frame :: outer := same.stack ▸ frames
    exact ⟨_, _, Engine.setPc_of_active frames address, Engine.setPc_of_active frames' address,
      same.setStack _⟩

/-- Both machines follow a continuation alike. -/
theorem advance [Host η] (same : SameGame live first second) {next : Continuation}
    (follows : first.CanFollow next) :
    ∃ first' second', Engine.advance next first = .ok () first' ∧
      Engine.advance next second = .ok () second' ∧ SameGame live first' second' := by
  rcases follows with rfl | ⟨address, rfl, active⟩
  · exact ⟨_, _, rfl, rfl, { same with status := rfl }⟩
  · exact same.setPc active address

theorem branch [Host η] (same : SameGame live first second) (active : first.stack.isEmpty = false)
    {instruction : Instruction} {condition : Bool}
    (clear : instruction.returnsOn condition = true → first.ReturnsClear) :
    ∃ first' second',
      (Engine.branchOn instruction condition >>= Engine.advance) first = .ok () first' ∧
      (Engine.branchOn instruction condition >>= Engine.advance) second = .ok () second' ∧
      SameGame live first' second' := by
  obtain ⟨next, first', second', here, there, kept, follows⟩ := same.branchOn active clear
  rw [bind_of_ok here, bind_of_ok there]
  exact kept.advance follows

theorem store (same : SameGame live first second) {frame : Frame} {outer : List Frame}
    {number : Nat} (frames : first.stack.frames = frame :: outer)
    (writable : first.story.Writable frame number) (clear : first.story.ClearOfFlags number)
    (value : UInt16) (address : Nat) :
    ∃ first' second',
      (Engine.writeVariable number value >>= fun _ => Engine.setPc address) first = .ok () first' ∧
      (Engine.writeVariable number value >>= fun _ => Engine.setPc address) second =
        .ok () second' ∧ SameGame live first' second' := by
  obtain ⟨first', second', here, there, kept, active⟩ :=
    same.writeVariable frames writable clear value
  rw [bind_of_ok here, bind_of_ok there]
  exact kept.setPc active address

end Machine.SameGame

end StoryMachine
