import StoryMachine.Proofs.Branching
import StoryMachine.Proofs.ErrorRecovery
import StoryMachine.Proofs.Operands
import StoryMachine.Proofs.Regions
import StoryMachine.Proofs.StaticMemory
import StoryMachine.Proofs.Stepping

/-! User stacks of version 6. The table of a user stack starts with the number of its free slots.
The free slots come next and the values on the stack follow them, so that the stack grows down to
the start of its table. -/

namespace StoryMachine

def userStackRegion (table slots : Nat) : Region :=
  ⟨table, table + 2 * (slots + 1)⟩

/-- There is a user stack in dynamic memory, with these values on it, the last one pushed first. -/
structure Story.HasUserStack (story : Story) (table slots : Nat) (values : List UInt16) :
    Prop where
  dynamic : table + 2 * (slots + 1) ≤ story.memory.staticMark
  small : slots < 65536
  count : (story.memory.wordAt table).toNat + values.length = slots
  held : story.memory.Holds (table + 2 * (slots - values.length + 1)) (wordBytes values)

namespace Story.HasUserStack

variable {story before after : Story} {table slots : Nat} {value : UInt16} {values : List UInt16}

/-- A table of free slots is an empty stack. -/
theorem of_free {free : UInt16} (counted : story.memory.wordAt table = free)
    (dynamic : table + 2 * (free.toNat + 1) ≤ story.memory.staticMark) :
    story.HasUserStack table free.toNat [] where
  dynamic := dynamic
  small := free.toNat_lt
  count := congrArg UInt16.toNat counted
  held := Memory.holds_nil _ _

theorem readWord_count (stack : story.HasUserStack table slots values) :
    story.memory.readWord table = .ok (story.memory.wordAt table) := by
  have dynamic := stack.dynamic
  have marked : story.memory.staticMark ≤ story.memory.size := story.memory.mark_le_size
  exact Memory.readWord_eq_ok_iff.mpr ⟨by omega, rfl⟩

/-- The value that was pushed last is in the first slot that is not free. -/
theorem readWord_top (stack : story.HasUserStack table slots (value :: values)) :
    story.memory.readWord (table + 2 * (slots - values.length)) = .ok value ∧
      story.memory.Holds (table + 2 * (slots - values.length + 1)) (wordBytes values) := by
  have count := stack.count
  have held := stack.held
  rw [List.length_cons] at count held
  have slot : slots - (values.length + 1) + 1 = slots - values.length := by omega
  rw [slot, wordBytes_cons] at held
  exact Memory.holds_word held

/-- A stack stays where its table is left alone. -/
theorem of_changedOnly {touched : Nat → Prop} (stack : before.HasUserStack table slots values)
    (changed : ChangedOnly touched before after)
    (spared : ∀ place ∈ userStackRegion table slots, ¬ touched place) :
    after.HasUserStack table slots values where
  dynamic := changed.staticMark ▸ stack.dynamic
  small := stack.small
  count := by
    rw [changed.wordAt (spared _ (Region.mem_mk.mpr (by omega)))
      (spared _ (Region.mem_mk.mpr (by omega)))]
    exact stack.count
  held := by
    have count := stack.count
    refine changed.holds (fun index inside => spared _ (Region.mem_mk.mpr ?_)) stack.held
    rw [wordBytes_length] at inside
    omega

end Story.HasUserStack

namespace Update
open Story

variable {story : Story} {table slots : Nat} {value : UInt16} {values : List UInt16}

/-- Values that stand at the end of a table are on its stack once the free slots are counted. -/
theorem writeWord_count {free : UInt16}
    (dynamic : table + 2 * (slots + 1) ≤ story.memory.staticMark) (small : slots < 65536)
    (counted : free.toNat + values.length = slots)
    (held : story.memory.Holds (table + 2 * (slots - values.length + 1)) (wordBytes values)) :
    ∃ after, writeWord table free story = .ok () after ∧
      after.HasUserStack table slots values ∧
      ChangedOnly (· ∈ userStackRegion table slots) story after := by
  obtain ⟨after, written, changed, start⟩ :=
    writeWord_ok (by omega : table + 1 < story.memory.staticMark) free
  refine ⟨after, written, ⟨changed.staticMark ▸ dynamic, small, ?_, ?_⟩, changed.mono ?_⟩
  · rw [(Memory.readWord_eq_ok_iff.mp (Memory.holds_word start).1).2]
    exact counted
  · refine changed.holds (fun index _ => ?_) held
    rw [Region.mem_mk]
    omega
  · intro place member
    rw [Region.mem_mk] at member
    exact Region.mem_mk.mpr (by omega)

/-- A full stack takes no value. -/
theorem pushUserStack_full (stack : story.HasUserStack table slots values)
    (full : slots ≤ values.length) (value : UInt16) :
    pushUserStack table value story = .ok false story := by
  have none : story.memory.wordAt table = 0 := by
    apply UInt16.toNat.inj
    have count := stack.count
    rw [UInt16.toNat_zero]
    omega
  rw [pushUserStack, bind_of_ok (query_of_ok stack.readWord_count), if_pos none]
  rfl

/-- A value is put in the last free slot, before the values that are on the stack. -/
theorem pushUserStack_free (stack : story.HasUserStack table slots values)
    (room : values.length < slots) (value : UInt16) :
    ∃ after, pushUserStack table value story = .ok true after ∧
      after.HasUserStack table slots (value :: values) ∧
      ChangedOnly (· ∈ userStackRegion table slots) story after := by
  have dynamic := stack.dynamic
  have count := stack.count
  generalize counted : story.memory.wordAt table = free at count
  have used : free ≠ 0 := by
    rintro rfl
    rw [UInt16.toNat_zero] at count
    omega
  have fewer : (free - 1).toNat + (value :: values).length = slots := by
    have one : 1 ≤ free := by
      rw [UInt16.le_iff_toNat_le, UInt16.toNat_one]
      omega
    rw [UInt16.toNat_sub_of_le _ _ one, List.length_cons, UInt16.toNat_one]
    omega
  have slot : table + free.toNat * 2 = table + 2 * (slots - (value :: values).length + 1) := by
    rw [List.length_cons]
    omega
  obtain ⟨middle, stored, changed, top⟩ :=
    writeWord_ok (by omega : table + free.toNat * 2 + 1 < story.memory.staticMark) value
  have held : middle.memory.Holds (table + free.toNat * 2) (wordBytes (value :: values)) := by
    have next : table + free.toNat * 2 + 2 = table + 2 * (slots - values.length + 1) := by omega
    rw [wordBytes_cons]
    refine Memory.holds_append.mpr ⟨top, changed.holds (fun index _ => ?_) (next ▸ stack.held)⟩
    rw [Region.mem_mk, List.length_cons, List.length_singleton]
    omega
  obtain ⟨after, noted, pushed, later⟩ :=
    writeWord_count (changed.staticMark ▸ dynamic) stack.small fewer (slot ▸ held)
  refine ⟨after, ?_, pushed, (changed.mono ?_).trans later⟩
  · rw [pushUserStack, bind_of_ok (query_of_ok stack.readWord_count), counted, if_neg used,
      bind_of_ok stored, bind_of_ok noted]
    rfl
  · intro place member
    rw [Region.mem_mk] at member
    exact Region.mem_mk.mpr (by omega)

/-- The value that was pushed last is taken off, and its slot is free. -/
theorem popUserStack_top (stack : story.HasUserStack table slots (value :: values)) :
    ∃ after, popUserStack table story = .ok value after ∧
      after.HasUserStack table slots values ∧
      ChangedOnly (· ∈ userStackRegion table slots) story after := by
  have count := stack.count
  have small := stack.small
  obtain ⟨top, held⟩ := stack.readWord_top
  generalize counted : story.memory.wordAt table = free at count
  rw [List.length_cons] at count
  have more : (free + 1).toNat = slots - values.length := by
    rw [UInt16.toNat_add, UInt16.toNat_one]
    omega
  obtain ⟨after, noted, popped, changed⟩ :=
    writeWord_count stack.dynamic small (by omega : (free + 1).toNat + values.length = slots) held
  refine ⟨after, ?_, popped, changed⟩
  have slot : table + (free + 1).toNat * 2 = table + 2 * (slots - values.length) := by omega
  rw [popUserStack, bind_of_ok (query_of_ok stack.readWord_count), counted, slot,
    bind_of_ok (query_of_ok top), bind_of_ok noted]
  rfl

/-- What is on a stack are the first values that were pushed on it, as many as it has slots. -/
theorem pushUserStack_after {past : List UInt16}
    (stack : story.HasUserStack table slots (past.take slots).reverse) (value : UInt16) :
    ∃ after, pushUserStack table value story = .ok (decide (past.length < slots)) after ∧
      after.HasUserStack table slots ((past ++ [value]).take slots).reverse ∧
      ChangedOnly (· ∈ userStackRegion table slots) story after ∧
      (slots ≤ past.length → after = story) := by
  have stacked : (past.take slots).reverse.length = min slots past.length := by
    rw [List.length_reverse, List.length_take]
  by_cases room : past.length < slots
  · obtain ⟨after, pushed, grown, changed⟩ := pushUserStack_free stack (by omega) value
    have all : ((past ++ [value]).take slots).reverse = value :: (past.take slots).reverse := by
      have fits : (past ++ [value]).length ≤ slots := by
        rw [List.length_append, List.length_singleton]
        exact room
      rw [List.take_of_length_le fits, List.take_of_length_le (Nat.le_of_lt room),
        List.reverse_append, List.reverse_singleton, List.singleton_append]
    rw [decide_eq_true room, all]
    exact ⟨after, pushed, grown, changed, fun full => absurd room (Nat.not_lt.mpr full)⟩
  · rw [decide_eq_false room, List.take_append_of_le_length (Nat.not_lt.mp room)]
    exact ⟨story, pushUserStack_full stack (by omega) value, stack, .refl _ story, fun _ => rfl⟩

end Update

/-- The result of an instruction is stored at this place in memory. A result that goes to the stack
or to a local is not stored in memory. -/
def Story.StoresAt (story : Story) (instruction : Instruction) (place : Nat) : Prop :=
  ∃ store ∈ instruction.store, firstGlobal ≤ store.target.toNat ∧
    place ∈ Region.mk (story.globalAddress store.target.toNat)
      (story.globalAddress store.target.toNat + 2)

namespace Machine

variable {η : Type} [Host η]

structure Pushes (machine : Machine η) (instruction : Instruction) (table value : UInt16) :
    Prop where
  means : instruction.opcode.operation? = some .pushStack
  branches : instruction.branch.isSome = true
  evaluated : ∃ rest ready,
    Engine.evaluate instruction 2 machine = .ok ⟨value :: table :: rest⟩ ready

structure Pulls (machine : Machine η) (instruction : Instruction) (table : UInt16)
    (slots : Nat) : Prop where
  means : instruction.opcode.operation? = some .pull
  evaluated : ∃ rest ready, Engine.evaluate instruction 0 machine = .ok ⟨table :: rest⟩ ready
  accepts : ∀ value story, Update.popUserStack table.toNat machine.story = .ok value story →
    { machine with story }.AcceptsResult instruction
  outside : ∀ value story, Update.popUserStack table.toNat machine.story = .ok value story →
    ∀ place ∈ userStackRegion table.toNat slots, ¬ story.StoresAt instruction place

omit [Host η] in
/-- Evaluating operands leaves a result the places it can go to. -/
theorem AcceptsResult.popped {machine : Machine η} {instruction : Instruction}
    (accepts : machine.AcceptsResult instruction) (count : Nat) :
    (machine.popped count).AcceptsResult instruction := by
  obtain ⟨frame, innermost, writable⟩ := accepts
  obtain ⟨outer, frames⟩ := List.head?_eq_some_iff.1 innermost
  rw [popped_of_active frames]
  exact ⟨frame.popped count, rfl, writable⟩

end Machine

namespace Engine
open Story

variable {η : Type} {machine : Machine η} {instruction : Instruction} {table value : UInt16}

/-- A result that has somewhere to go is stored there, and nothing else in memory changes. -/
theorem finishWith_of_accepts (accepts : machine.AcceptsResult instruction) (value : UInt16) :
    ∃ after, finishWith instruction value machine = .ok (.goto instruction.next) after ∧
      ChangedOnly (machine.story.StoresAt instruction) machine.story after.story := by
  obtain ⟨frame, innermost, writable⟩ := accepts
  obtain ⟨outer, frames⟩ := List.head?_eq_some_iff.1 innermost
  cases stores : instruction.store with
  | none =>
    have nowhere : storeResult instruction value machine = .ok () machine := by
      rw [storeResult, stores]
      rfl
    exact ⟨machine, bind_of_ok nowhere, .refl _ _⟩
  | some store =>
    have written : storeResult instruction value machine =
        writeVariable store.target.toNat value machine := by
      rw [storeResult, stores]
    have here := writable store stores
    unfold Writable at here
    split at here
    next own =>
      rw [writeVariable_own frames own, if_pos here] at written
      exact ⟨_, bind_of_ok written, .refl _ _⟩
    next shared =>
      rw [writeVariable_global shared, if_pos here] at written
      refine ⟨_, bind_of_ok written, .putWord _ _ ?_ ?_ value⟩
      · exact ⟨store, stores, Nat.not_lt.mp shared, Region.mem_mk.mpr (by omega)⟩
      · exact ⟨store, stores, Nat.not_lt.mp shared, Region.mem_mk.mpr (by omega)⟩

variable [Host η] {slots : Nat} {values : List UInt16}

theorem dispatch_of_pushes (pushes : machine.Pushes instruction table value) {condition : Bool}
    {middle : Machine η} (comes : machine.ComesToBranch instruction condition middle) :
    dispatch instruction machine = branchOn instruction condition middle := by
  refine dispatch_of_comesToBranch ?_ pushes.branches comes
  rw [Opcode.branches, pushes.means]
  rfl

/-- An instruction that pushes a value branches on whether there was room for it. -/
theorem comesToBranch_of_pushes {past : List UInt16} (late : machine.version = .v6)
    (pushes : machine.Pushes instruction table value)
    (stack : machine.story.HasUserStack table.toNat slots (past.take slots).reverse) :
    ∃ middle, machine.ComesToBranch instruction (decide (past.length < slots)) middle ∧
      middle.story.HasUserStack table.toNat slots ((past ++ [value]).take slots).reverse ∧
      ChangedOnly (· ∈ userStackRegion table.toNat slots) machine.story middle.story ∧
      (slots ≤ past.length → middle.story = machine.story) := by
  obtain ⟨rest, ready, evaluated⟩ := pushes.evaluated
  obtain ⟨-, rfl, -⟩ := evaluate_eq_ok evaluated
  obtain ⟨story, pushed, grown, changed, full⟩ := Update.pushUserStack_after stack value
  refine ⟨{ machine.popped instruction.pops with story }, ?_, grown, changed, full⟩
  refine ⟨.pushStack, pushes.means, ?_, ?_, ?_⟩
  · rw [late]
    rfl
  · rw [branchTest, bind_of_ok evaluated]
    exact update_of_ok pushed
  · intro restores
    cases restores

/-- An instruction that pulls a value stores the one that was pushed last. -/
theorem dispatch_of_pulls (late : machine.version = .v6)
    (pulls : machine.Pulls instruction table slots)
    (stack : machine.story.HasUserStack table.toNat slots (value :: values)) :
    ∃ popped after, dispatch instruction machine = finishWith instruction value popped ∧
      finishWith instruction value popped = .ok (.goto instruction.next) after ∧
      after.story.HasUserStack table.toNat slots values ∧
      ChangedOnly (· ∈ userStackRegion table.toNat slots) machine.story popped.story ∧
      ChangedOnly (popped.story.StoresAt instruction) popped.story after.story := by
  obtain ⟨rest, ready, evaluated⟩ := pulls.evaluated
  obtain ⟨-, rfl, -⟩ := evaluate_eq_ok evaluated
  obtain ⟨story, taken, shrunk, changed⟩ := Update.popUserStack_top stack
  have accepts := (pulls.accepts value story taken).popped instruction.pops
  obtain ⟨after, finished, stored⟩ := finishWith_of_accepts accepts value
  refine ⟨{ machine.popped instruction.pops with story }, after, ?_, finished, ?_, changed, stored⟩
  · have known : (version : Engine η Version) machine = .ok machine.version machine := rfl
    have available : Operation.pull.isAvailable machine.version = true := by rw [late]; rfl
    rw [dispatch_of_available _ pulls.means available, perform, pull, bind_of_ok known,
      if_pos late, bind_of_ok evaluated]
    exact bind_of_ok (update_of_ok taken)
  · exact shrunk.of_changedOnly stored (pulls.outside value story taken)

/-- Machines that push values on a user stack in turn. Whatever happens from the branch of one push
to the next push leaves the table alone. -/
structure PushesInTurn (table : UInt16) (slots : Nat) (values : List UInt16)
    (machines : Nat → Machine η) (instructions : Nat → Instruction) : Prop where
  pushes : ∀ turn value, values[turn]? = some value →
    (machines turn).Pushes (instructions turn) table value
  spared : ∀ turn < values.length, ∀ condition middle,
    (machines turn).ComesToBranch (instructions turn) condition middle →
    ChangedOnly (· ∉ userStackRegion table.toNat slots) middle.story (machines (turn + 1)).story

/-- Machines that pull values from a user stack in turn. Whatever happens from one pull to the next
leaves the table alone. -/
structure PullsInTurn (table : UInt16) (slots count : Nat) (machines : Nat → Machine η)
    (instructions : Nat → Instruction) : Prop where
  pulls : ∀ turn < count, (machines turn).Pulls (instructions turn) table slots
  spared : ∀ turn, turn + 1 < count → ∀ continuation after,
    dispatch (instructions turn) (machines turn) = .ok continuation after →
    ChangedOnly (· ∉ userStackRegion table.toNat slots) after.story (machines (turn + 1)).story

variable {machines : Nat → Machine η} {instructions : Nat → Instruction}

theorem PushesInTurn.stack_at (pushing : PushesInTurn table slots values machines instructions)
    (late : (machines 0).version = .v6)
    (stack : (machines 0).story.HasUserStack table.toNat slots []) {turn : Nat}
    (reached : turn ≤ values.length) :
    (machines turn).version = .v6 ∧
      (machines turn).story.HasUserStack table.toNat slots
        ((values.take turn).take slots).reverse := by
  induction turn with
  | zero =>
    rw [List.take_zero, List.take_nil, List.reverse_nil]
    exact ⟨late, stack⟩
  | succ turn ih =>
    obtain ⟨late, stack⟩ := ih (Nat.le_of_lt reached)
    have pushes := pushing.pushes turn values[turn] (List.getElem?_eq_getElem reached)
    obtain ⟨middle, comes, grown, changed, -⟩ := comesToBranch_of_pushes late pushes stack
    have spared := pushing.spared turn reached _ middle comes
    rw [List.take_append_getElem] at grown
    refine ⟨?_, grown.of_changedOnly spared fun place member outside => outside member⟩
    exact (spared.version.trans changed.version).trans late

theorem PullsInTurn.stack_at
    (pulling : PullsInTurn table slots values.length machines instructions)
    (late : (machines 0).version = .v6)
    (stack : (machines 0).story.HasUserStack table.toNat slots values) {turn : Nat}
    (reached : turn < values.length) :
    (machines turn).version = .v6 ∧
      (machines turn).story.HasUserStack table.toNat slots (values.drop turn) := by
  induction turn with
  | zero => exact ⟨late, stack⟩
  | succ turn ih =>
    obtain ⟨late, stack⟩ := ih (Nat.lt_of_succ_lt reached)
    rw [List.drop_eq_getElem_cons (Nat.lt_of_succ_lt reached)] at stack
    obtain ⟨popped, after, ran, finished, shrunk, changed, stored⟩ :=
      dispatch_of_pulls late (pulling.pulls turn (Nat.lt_of_succ_lt reached)) stack
    have spared := pulling.spared turn reached _ after (ran.trans finished)
    refine ⟨?_, shrunk.of_changedOnly spared fun place member outside => outside member⟩
    exact ((spared.version.trans stored.version).trans changed.version).trans late

/-- User stacks are last in, first out. Of the values that are pushed on an empty stack, those for
which there are slots are taken, and the others are refused and change nothing. As many pulls as
there were values taken succeed. They store the values that were taken in reverse order, and leave
all slots free. A push changes nothing in memory but the table, and a pull nothing but the table and
the variable for its result. -/
theorem pulls_reverse_pushes {slots : UInt16} {pushes pulls : Nat → Instruction}
    (late : (machines 0).version = .v6)
    (free : (machines 0).story.memory.wordAt table.toNat = slots)
    (dynamic : table.toNat + 2 * (slots.toNat + 1) ≤ (machines 0).story.memory.staticMark)
    (pushing : PushesInTurn table slots.toNat values machines pushes)
    (pulling : PullsInTurn table slots.toNat (min values.length slots.toNat)
      (fun turn => machines (values.length + turn)) pulls) :
    (∀ turn < values.length, ∃ middle,
      (machines turn).ComesToBranch (pushes turn) (decide (turn < slots.toNat)) middle ∧
      dispatch (pushes turn) (machines turn) =
        branchOn (pushes turn) (decide (turn < slots.toNat)) middle ∧
      ChangedOnly (· ∈ userStackRegion table.toNat slots.toNat)
        (machines turn).story middle.story ∧
      (slots.toNat ≤ turn → middle.story = (machines turn).story)) ∧
    ∀ turn value, (values.take slots.toNat).reverse[turn]? = some value → ∃ popped after,
      dispatch (pulls turn) (machines (values.length + turn)) =
        finishWith (pulls turn) value popped ∧
      finishWith (pulls turn) value popped = .ok (.goto (pulls turn).next) after ∧
      ChangedOnly (fun place => place ∈ userStackRegion table.toNat slots.toNat ∨
          popped.story.StoresAt (pulls turn) place)
        (machines (values.length + turn)).story after.story ∧
      (turn + 1 = min values.length slots.toNat →
        after.story.memory.wordAt table.toNat = slots) := by
  have start := HasUserStack.of_free free dynamic
  constructor
  · intro turn before
    obtain ⟨late, stack⟩ := pushing.stack_at late start (Nat.le_of_lt before)
    have pushes := pushing.pushes turn values[turn] (List.getElem?_eq_getElem before)
    obtain ⟨middle, comes, -, changed, full⟩ := comesToBranch_of_pushes late pushes stack
    rw [List.length_take_of_le (Nat.le_of_lt before)] at comes full
    exact ⟨middle, comes, dispatch_of_pushes pushes comes, changed, full⟩
  · intro turn value next
    obtain ⟨late, stack⟩ := pushing.stack_at late start (Nat.le_refl _)
    rw [List.take_length] at stack
    have count : (values.take slots.toNat).reverse.length = min values.length slots.toNat := by
      rw [List.length_reverse, List.length_take, Nat.min_comm]
    rw [← count] at pulling ⊢
    generalize (values.take slots.toNat).reverse = stacked at stack pulling next ⊢
    obtain ⟨before, rfl⟩ := List.getElem?_eq_some_iff.mp next
    obtain ⟨late, stack⟩ := pulling.stack_at late stack before
    rw [List.drop_eq_getElem_cons before] at stack
    obtain ⟨popped, after, ran, finished, shrunk, changed, stored⟩ :=
      dispatch_of_pulls late (pulling.pulls turn before) stack
    refine ⟨popped, after, ran, finished, ?_, ?_⟩
    · exact (changed.mono fun _ => Or.inl).trans (stored.mono fun _ => Or.inr)
    · intro last
      have none := shrunk.count
      rw [last, List.drop_length] at none
      exact UInt16.toNat.inj none

def pushing (value : UInt16) : Instruction where
  address := 0x40
  opcode := .ofExtendedByte .v6 0x18
  operands := [⟨.largeConstant, value⟩, ⟨.smallConstant, 0x50⟩]
  store := none
  branch := some ⟨0x46, true, 0x47⟩
  next := 0x47

def pulling : Instruction where
  address := 0x47
  opcode := .ofByte .v6 0xe9
  operands := [⟨.smallConstant, 0x50⟩]
  store := some ⟨0x4a, 0⟩
  branch := none
  next := 0x4b

def pushingThenPulling (turn : Nat) : Instruction :=
  ([7, 8, 9][turn]?.map pushing).getD pulling

/-- A machine of version 6 with a user stack of two slots at 0x50, after some turns. -/
def stacking : Nat → Machine MemoryStore
  | 0 => .ofBytes .v6 [(0x51, 2)]
  | turn + 1 => finalState (dispatch (pushingThenPulling turn) (stacking turn))

theorem pushesInTurn_stacking : PushesInTurn 0x50 2 [7, 8, 9] stacking pushingThenPulling where
  pushes turn value given := by
    rw [pushingThenPulling, given]
    exact ⟨rfl, rfl, [], _, rfl⟩
  spared turn before condition middle comes := by
    have pushes : pushingThenPulling turn = pushing [7, 8, 9][turn] := by
      rw [pushingThenPulling, List.getElem?_eq_getElem before]
      rfl
    have goes : branchOn (pushing [7, 8, 9][turn]) condition middle = .ok (.goto 0x47) middle := by
      rw [branchOn_eq rfl]
      split <;> rfl
    rw [pushes] at comes
    have ran := dispatch_of_comesToBranch rfl rfl comes
    rw [stacking, pushes, ran, goes]
    exact .refl _ _

theorem pullsInTurn_stacking : PullsInTurn 0x50 2 2 (fun turn => stacking (3 + turn))
    fun turn => pushingThenPulling (3 + turn) where
  pulls turn before := by
    have pulls : pushingThenPulling (3 + turn) = pulling := by
      rw [pushingThenPulling, List.getElem?_eq_none (Nat.le_add_right 3 turn)]
      rfl
    have active : ∃ frame, (stacking (3 + turn)).stack.frames.head? = some frame := by
      rw [← Option.isSome_iff_exists]
      revert turn
      decide +kernel
    rw [pulls]
    refine ⟨rfl, ⟨[], _, rfl⟩, ?_, ?_⟩
    · intro value story taken
      obtain ⟨frame, innermost⟩ := active
      refine ⟨frame, innermost, fun store given => ?_⟩
      cases given
      exact Nat.zero_le _
    · rintro value story taken place member ⟨store, given, shared, -⟩
      cases given
      exact absurd shared (by decide)
  spared turn before continuation after ran := by
    rw [← Nat.add_assoc, stacking, ran]
    exact .refl _ _

theorem pulls_reverse_pushes_stacking :
    (∃ middle, (stacking 1).ComesToBranch (pushing 8) true middle ∧
      ChangedOnly (· ∈ Region.mk 0x50 0x56) (stacking 1).story middle.story) ∧
    (∃ middle, (stacking 2).ComesToBranch (pushing 9) false middle ∧
      middle.story = (stacking 2).story) ∧
    (∃ popped, dispatch pulling (stacking 3) = finishWith pulling 8 popped) ∧
    ∃ popped after, dispatch pulling (stacking 4) = finishWith pulling 7 popped ∧
      finishWith pulling 7 popped = .ok (.goto 0x4b) after ∧
      after.story.memory.wordAt 0x50 = 2 := by
  have late : (stacking 0).version = .v6 := rfl
  have free : (stacking 0).story.memory.wordAt (0x50 : UInt16).toNat = 2 := by decide +kernel
  have dynamic : (0x50 : UInt16).toNat + 2 * ((2 : UInt16).toNat + 1) ≤
      (stacking 0).story.memory.staticMark := by
    decide
  obtain ⟨pushed, pulled⟩ :=
    pulls_reverse_pushes late free dynamic pushesInTurn_stacking pullsInTurn_stacking
  obtain ⟨second, taken, -, changed, -⟩ := pushed 1 (by decide)
  obtain ⟨third, refused, -, -, same⟩ := pushed 2 (by decide)
  obtain ⟨popped, -, first, -⟩ := pulled 0 8 rfl
  obtain ⟨popped', after, last, finished, -, restored⟩ := pulled 1 7 rfl
  exact ⟨⟨second, taken, changed⟩, ⟨third, refused, same (by decide)⟩, ⟨popped, first⟩,
    popped', after, last, finished, restored rfl⟩

end Engine

end StoryMachine
