import StoryMachine.Proofs.ErrorRecovery
import StoryMachine.Proofs.Operands
import StoryMachine.Proofs.SameGame
import StoryMachine.Proofs.StaticMemory

/-! A restored game goes on where it was saved. However long ago that was, going back to the
snapshot leads to the state right after the save, but for the player's flags and for the result by
which the story tells the one from the other. -/

namespace StoryMachine

variable {η : Type}

structure Story.SameLayout (before after : Story) : Prop where
  format : after.format = before.format
  size : after.memory.size = before.memory.size
  staticMark : after.memory.staticMark = before.memory.staticMark

namespace Story.SameLayout

variable {before middle after : Story}

theorem refl (story : Story) : SameLayout story story :=
  ⟨rfl, rfl, rfl⟩

theorem trans (first : SameLayout before middle) (second : SameLayout middle after) :
    SameLayout before after :=
  ⟨second.format.trans first.format, second.size.trans first.size,
    second.staticMark.trans first.staticMark⟩

theorem of_sameStatic (same : Story.SameStatic before after) : SameLayout before after :=
  ⟨same.format, same.size, same.staticMark⟩

theorem restore {machine restored : Machine η} {snapshot : Snapshot}
    (went : machine.restore? snapshot = some restored) :
    SameLayout machine.story restored.story := by
  obtain ⟨fits, memory, kept, rfl⟩ := Machine.restore?_eq_some went
  exact ⟨rfl, kept.bytes.size.trans fits.size, kept.staticMark⟩

theorem restart {story : Story} {image : Array UInt8} {memory : Memory}
    (replaced : story.memory.replace image = .ok memory) (flags : UInt16) :
    SameLayout story { story with memory := memory.setHeaderWord .flags2 flags } := by
  by_cases size : image.size = story.memory.size
  · obtain ⟨restored, other, bytes, staticMark, -, -⟩ := Memory.replace_of_size size
    rw [other] at replaced
    cases replaced
    refine ⟨rfl, ?_, staticMark⟩
    simpa [Memory.setHeaderWord, Memory.putWord, Memory.put, Memory.size, bytes] using size
  · rw [Memory.replace_of_other_size size] at replaced
    cases replaced

variable [Host η]

theorem snapshots {before after : Machine η} (action : SnapshotAction before after) :
    SameLayout before.story after.story := by
  cases action with
  | none | saved | missed | noted | dropped => exact refl before.story
  | restored found went =>
    have same := restore went
    exact same
  | undone popped went =>
    have same := restore went
    exact same
  | restarted initial replaced => exact restart replaced _

theorem transition {before after : Machine η} (moved : Transition before after) :
    SameLayout before.story after.story := by
  cases moved with
  | quiet silent => exact of_sameStatic silent.story
  | snapshots action => exact snapshots action
  | jumped | called | returned | awaited | entered | counted | began | started =>
    exact refl before.story
  | described =>
    exact of_sameStatic (.describeInterpreter before.story before.version before.config)

theorem reaches {before after : Machine η} (reached : Reaches before after) :
    SameLayout before.story after.story := by
  induction reached with
  | refl => exact refl before.story
  | tail _ last ih => exact ih.trans (transition last)

end Story.SameLayout

namespace Frame

/-- Replacing a variable undoes what was assigned to it before. -/
theorem replace_assigned {frame : Frame} {number : Nat} (present : number ≤ frame.locals.length)
    (value other : UInt16) (pc : Nat) :
    { frame.assigned number value with pc }.replace number other =
      .ok { frame.assigned number other with pc } := by
  by_cases zero : number = 0
  · simp [replace, assigned, zero, push, pop, bind, Except.bind, pure, Except.pure]
  · simp [replace, write, assigned, zero, present]

end Frame

theorem Memory.putWord_putWord (memory : Memory) (address : Nat) (value other : UInt16) :
    (memory.putWord address value).putWord address other = memory.putWord address other := by
  have bytes : ((((memory.bytes.setIfInBounds address (highByte value)).setIfInBounds (address + 1)
      (lowByte value)).setIfInBounds address (highByte other)).setIfInBounds (address + 1)
        (lowByte other)) =
      (memory.bytes.setIfInBounds address (highByte other)).setIfInBounds (address + 1)
        (lowByte other) := by
    rw [Array.setIfInBounds_comm (lowByte value) (highByte other) (by omega),
      Array.setIfInBounds_setIfInBounds, Array.setIfInBounds_setIfInBounds]
  simp only [putWord, put, bytes]

namespace Engine

variable {machine : Machine η} {frame : Frame} {outer : List Frame} {number : Nat}

/-- Had another value been stored, it is as if it replaced the one that was. -/
theorem replaceVariable_of_stored (frames : machine.stack.frames = frame :: outer)
    (writable : machine.story.Writable frame number)
    (outside : firstGlobal ≤ number → headerSize ≤ machine.story.globalAddress number)
    (value other : UInt16) (address : Nat) :
    ∃ stored replaced,
      (writeVariable number value >>= fun _ => setPc address) machine = .ok () stored ∧
      (writeVariable number other >>= fun _ => setPc address) machine = .ok () replaced ∧
      peekVariable number stored = .ok value stored ∧
      replaceVariable number other stored = .ok () replaced := by
  unfold Story.Writable at writable
  split at writable
  next own =>
    have here := writeVariable_own frames own value
    have there := writeVariable_own frames own other
    rw [if_pos writable] at here there
    rw [bind_of_ok here, bind_of_ok there]
    refine ⟨_, _, setPc_of_active rfl address, setPc_of_active rfl address, ?_, ?_⟩
    · simp only [peekVariable, if_pos own, queryStack, CallStack.top, bind, Except.bind,
        Frame.peekVariable_assigned writable]
    · rw [replaceVariable, if_pos own]
      refine updateTop_of_ok rfl ?_
      simp only [Frame.replace_assigned writable]
      rfl
  next shared =>
    let place := machine.story.globalAddress number
    let written (value : UInt16) : Machine η :=
      { machine with
        story := { machine.story with memory := machine.story.memory.putWord place value } }
    have wrote (value : UInt16) : writeVariable number value machine = .ok () (written value) := by
      rw [writeVariable_global shared, if_pos writable]
    have went (value : UInt16) : setPc address (written value) = .ok ()
        { written value with stack := ⟨{ frame with pc := address } :: outer⟩ } := by
      have frames : (written value).stack.frames = frame :: outer := frames
      exact setPc_of_active frames address
    have inside : place + 1 < machine.story.memory.size :=
      Nat.lt_of_lt_of_le writable machine.story.memory.mark_le_size
    have shared' := Nat.le_of_not_lt shared
    have stays : (written value).story.globalAddress number = place :=
      Story.globalAddress_putWord (outside shared') inside value number
    refine ⟨_, _, (bind_of_ok (wrote value)).trans (went value),
      (bind_of_ok (wrote other)).trans (went other), ?_, ?_⟩
    · have read : (written value).story.global number = .ok value := by
        rw [Story.global_putWord shared' shared' (outside shared') inside, if_pos rfl]
      simp only [peekVariable, if_neg shared, query, read]
    · have fits : (written value).story.globalAddress number + 1 <
          (written value).story.memory.staticMark := by
        rw [stays]
        exact writable
      rw [replaceVariable_global shared, writeVariable_global shared, if_pos fits, stays]
      simp only [written, Memory.putWord_putWord]

end Engine

variable [Host η]

inductive Machine.Saves (machine : Machine η) (instruction : Instruction) : Snapshot → Prop where
  | game (means : instruction.opcode.operation? = some .save)
      (available : Operation.save.isAvailable machine.version = true)
      (kept : (SaveStore.save (machine.capture instruction.address) machine.host).1 = true) :
      Saves machine instruction (machine.capture instruction.address)
  | extended (means : instruction.opcode.operation? = some .saveExt) {operands : Operands}
      {evaluated : Machine η}
      (ran : Engine.evaluate instruction 0 machine.counted = .ok operands evaluated)
      (kept : (SaveStore.save (evaluated.capture instruction.address) evaluated.host).1 = true) :
      Saves machine instruction (evaluated.capture instruction.address)
  | undo (means : instruction.opcode.operation? = some .saveUndo) :
      Saves machine instruction (machine.capture instruction.address)

inductive Machine.GetsBack (machine : Machine η) (instruction : Instruction)
    (snapshot : Snapshot) : Prop where
  | game (means : instruction.opcode.operation? = some .restore)
      (available : Operation.restore.isAvailable machine.version = true)
      (found : (SaveStore.restore machine.host).1 = some snapshot)
  | extended (means : instruction.opcode.operation? = some .restoreExt) {operands : Operands}
      {evaluated : Machine η}
      (ran : Engine.evaluate instruction 0 machine.counted = .ok operands evaluated)
      (found : (SaveStore.restore evaluated.host).1 = some snapshot)
  | undo (means : instruction.opcode.operation? = some .restoreUndo) {history : UndoHistory}
      (popped : machine.undo.pop? = some (snapshot, history))

structure Machine.WentBack (snapshot : Snapshot) (before after : Machine η) : Prop where
  memory : Memory.RestoredFrom snapshot.image before.story.memory after.story.memory
  format : after.story.format = before.story.format
  stack : after.stack = snapshot.stack
  status : after.status = before.status

namespace Engine

variable {machine before : Machine η} {instruction : Instruction} {snapshot : Snapshot}

omit [Host η] in
theorem finishSave_of_plain (plain : instruction.branch.isSome = false) :
    finishSave instruction true = (finishWith instruction 1 : Engine η Continuation) := by
  rw [finishSave, if_neg (by simp [plain]), if_pos rfl]

theorem saveGame_of_kept {address : Nat}
    (kept : (SaveStore.save (before.capture address) before.host).1 = true) :
    saveGame address before = .ok true
      { before with host := (SaveStore.save (before.capture address) before.host).2 } := by
  rw [← kept]
  rfl

/-- Once the snapshot is taken, the instruction goes on with its success. -/
theorem dispatch_of_saves (executes : machine.Executes instruction)
    (saves : machine.Saves instruction snapshot) :
    ∃ taken popped, dispatch instruction machine.counted = finishSave instruction true taken ∧
      snapshot = taken.capture instruction.address ∧ taken.story = machine.story ∧
      taken.stack = (machine.popped popped).stack ∧ taken.status = machine.status := by
  obtain ⟨frame, outer, frames, decoded⟩ := Machine.current_eq_ok executes.decoded
  have plain {operation : Operation} (means : instruction.opcode.operation? = some operation)
      (never : operation.branches instruction.opcode.version = false) :
      instruction.branch.isSome = false := by
    rw [(Story.decoded_of_decodeInstruction decoded).branches, Opcode.branches, means]
    exact never
  have whole : machine.stack = (machine.popped 0).stack := by rw [Machine.popped_zero]
  cases saves with
  | game means available kept =>
    have kept : (SaveStore.save (machine.counted.capture instruction.address)
        machine.counted.host).1 = true := kept
    have run : perform instruction .save machine.counted = save instruction machine.counted := rfl
    have went := dispatch_of_available machine.counted means available
    rw [run, save, bind_of_ok (saveGame_of_kept kept)] at went
    exact ⟨_, 0, went, rfl, rfl, whole, rfl⟩
  | @extended means operands evaluated ran kept =>
    obtain ⟨-, popped, -⟩ := evaluate_eq_ok ran
    have run : perform instruction .saveExt machine.counted =
        saveExtended instruction machine.counted := rfl
    have went := dispatch_of_available machine.counted means rfl
    rw [run, saveExtended, bind_of_ok ran, bind_of_ok (saveGame_of_kept kept), if_pos rfl,
      ← finishSave_of_plain (plain means rfl)] at went
    refine ⟨_, instruction.pops, went, rfl, ?_, ?_, ?_⟩ <;> rw [popped] <;> rfl
  | undo means =>
    have run : perform instruction .saveUndo machine.counted =
        takeUndo instruction machine.counted := rfl
    have noted : saveUndo instruction.address machine.counted = .ok () { machine.counted with
        undo := machine.undo.push (machine.capture instruction.address) } := rfl
    have went := dispatch_of_available machine.counted means rfl
    rw [run, takeUndo, bind_of_ok noted, ← finishSave_of_plain (plain means rfl)] at went
    exact ⟨_, 0, went, rfl, rfl, whole, rfl⟩

theorem restoreGame_of_fits (found : (SaveStore.restore before.host).1 = some snapshot)
    (fits : snapshot.Fits before.story.memory) :
    ∃ restored, restoreGame before = .ok (some snapshot.address) restored ∧
      before.WentBack snapshot restored ∧ restored.pending = none := by
  let asked := { before with host := (SaveStore.restore before.host).2 }
  have answered : (ask SaveStore.restore : Engine η (Option Snapshot)) before =
      .ok (SaveStore.restore before.host).1 asked := rfl
  have fits : snapshot.Fits asked.story.memory := fits
  obtain ⟨memory, kept, went⟩ := Machine.restore?_of_fits fits
  rw [restoreGame, bind_of_ok answered, found]
  simp only [bind_of_ok (restoreSnapshot_of_some went)]
  exact ⟨_, rfl, ⟨kept, rfl, rfl, rfl⟩, rfl⟩

omit [Host η] in
theorem restoreUndo_of_fits {history : UndoHistory}
    (popped : before.undo.pop? = some (snapshot, history))
    (fits : snapshot.Fits before.story.memory) :
    ∃ memory, Memory.RestoredFrom snapshot.image before.story.memory memory ∧
      restoreUndo before = .ok (some snapshot.address) { before with
        undo := history
        story := { before.story with memory }
        stack := snapshot.stack
        captures := []
        pending := none } := by
  let taken := { before with undo := history }
  have run : restoreUndo before = (do
      return if ← restoreSnapshot snapshot then some snapshot.address else none) taken := by
    simp only [restoreUndo, get_bind, popped]
    rfl
  have fits : snapshot.Fits taken.story.memory := fits
  obtain ⟨memory, kept, went⟩ := Machine.restore?_of_fits fits
  rw [run, bind_of_ok (restoreSnapshot_of_some went)]
  exact ⟨memory, kept, rfl⟩

/-- Once the snapshot is back, the instruction that took it goes on. No read is pending. -/
theorem dispatch_back (gets : machine.GetsBack instruction snapshot)
    (fits : snapshot.Fits machine.story.memory) :
    ∃ restored, dispatch instruction machine.counted = resumeAfter snapshot.address restored ∧
      machine.WentBack snapshot restored ∧ restored.pending = none := by
  have fits : snapshot.Fits machine.counted.story.memory := fits
  cases gets with
  | game means available found =>
    have found : (SaveStore.restore machine.counted.host).1 = some snapshot := found
    obtain ⟨restored, ran, went, gone⟩ := restoreGame_of_fits found fits
    have run : perform instruction .restore machine.counted =
        restore instruction machine.counted := rfl
    refine ⟨restored, ?_, { went with }, gone⟩
    rw [dispatch_of_available machine.counted means available, run, restore, bind_of_ok ran]
  | @extended means operands evaluated ran found =>
    obtain ⟨-, rfl, -⟩ := evaluate_eq_ok ran
    have fits : snapshot.Fits (machine.counted.popped instruction.pops).story.memory := fits
    obtain ⟨restored, back, went, gone⟩ := restoreGame_of_fits found fits
    have run : perform instruction .restoreExt machine.counted =
        restoreExtended instruction machine.counted := rfl
    refine ⟨restored, ?_, { went with }, gone⟩
    rw [dispatch_of_available machine.counted means rfl, run, restoreExtended, bind_of_ok ran,
      bind_of_ok back]
  | @undo means history popped =>
    have popped : machine.counted.undo.pop? = some (snapshot, history) := popped
    obtain ⟨memory, kept, ran⟩ := restoreUndo_of_fits popped fits
    have run : perform instruction .restoreUndo machine.counted =
        undo instruction machine.counted := rfl
    have went := dispatch_of_available machine.counted means rfl
    rw [run, undo, bind_of_ok ran] at went
    exact ⟨_, went, ⟨kept, rfl, rfl, rfl⟩, rfl⟩

theorem dispatch_of_getsBack (gets : machine.GetsBack instruction snapshot)
    (fits : snapshot.Fits machine.story.memory) :
    ∃ restored, dispatch instruction machine.counted = resumeAfter snapshot.address restored ∧
      machine.WentBack snapshot restored := by
  obtain ⟨restored, ran, went, -⟩ := dispatch_back gets fits
  exact ⟨restored, ran, went⟩

end Engine

/-- Up to version 3 a save branches, and later it stores. -/
theorem Machine.Saves.parts {machine : Machine η} {instruction : Instruction} {snapshot : Snapshot}
    (saves : machine.Saves instruction snapshot) (executes : machine.Executes instruction) :
    (machine.version < .v4 → instruction.branch.isSome = true) ∧
      (.v4 ≤ machine.version →
        instruction.branch.isSome = false ∧ instruction.store.isSome = true) := by
  obtain ⟨frame, outer, frames, decoded⟩ := Machine.current_eq_ok executes.decoded
  have parts := Story.decoded_of_decodeInstruction decoded
  have version : instruction.opcode.version = machine.version := parts.opcode.version_eq
  rw [parts.branches, parts.stores, Opcode.branches, Opcode.stores, version]
  have late (means : instruction.opcode.operation? = some .saveExt ∨
      instruction.opcode.operation? = some .saveUndo) : .v5 ≤ machine.version :=
    parts.opcode.late means
  cases saves with
  | game means available =>
    rw [means]
    revert available
    cases machine.version <;> decide
  | extended means =>
    have late := late (.inl means)
    rw [means]
    revert late
    cases machine.version <;> decide
  | undo means =>
    have late := late (.inr means)
    rw [means]
    revert late
    cases machine.version <;> decide

/-- An instruction that saves can be taken up again. It is not in the player's flags, its result
goes to a variable that is there and not in the header, and if it returns from its routine, the
routine can hand its result over without going near those flags. -/
structure Machine.Resumable (machine : Machine η) (instruction : Instruction) : Prop where
  apart : instruction.next ≤ 0x10 ∨ 0x12 ≤ instruction.address
  accepts : machine.AcceptsResult instruction
  outside : ∀ store ∈ instruction.store, firstGlobal ≤ store.target.toNat →
    headerSize ≤ machine.story.globalAddress store.target.toNat
  returns : instruction.returnsOn true = true → machine.ReturnsClear

namespace Engine

variable {saving later taken restored : Machine η} {save restore : Instruction}
  {snapshot : Snapshot}

omit [Host η] in
/-- The instruction that saved is found again in the memory it saved. -/
theorem resumeAfter_eq {frame : Frame}
    (decoded : saving.story.decodeInstruction frame.pc = .ok save)
    (apart : save.next ≤ 0x10 ∨ 0x12 ≤ save.address) {live : Array UInt8}
    (same : saving.story.format = restored.story.format)
    (kept : FlagsKept saving.story.memory.bytes live restored.story.memory.bytes) :
    resumeAfter save.address restored =
      (if save.branch.isSome then branchOn save true else finishWith save 2) restored := by
  have address : save.address = frame.pc := (Story.decoded_of_decodeInstruction decoded).address
  rw [← address] at decoded
  have again := Story.decodeInstruction_of_agree decoded (congrArg Format.version same.symm)
    (kept.agreeOn apart)
  have found : query (·.decodeInstruction save.address) restored = .ok save restored := by
    simp only [query, again]
  rw [resumeAfter, bind_of_ok found]

theorem finishWith_advance {store : Store} (stores : save.store = some store) (value : UInt16) :
    (finishWith save value >>= advance : Engine η Unit) =
      writeVariable store.target.toNat value >>= fun _ => setPc save.next := by
  simp only [finishWith, storeResult, stores, proceed, bind_assoc, pure_bind]
  rfl

omit [Host η] in
/-- Operands that were popped are of no consequence for what follows. -/
theorem returnsClear_of_popped {popped : Nat} (clear : saving.ReturnsClear)
    (story : taken.story = saving.story) (stack : taken.stack = (saving.popped popped).stack) :
    taken.ReturnsClear := by
  intro frame caller outer frames
  rw [stack] at frames
  cases held : saving.stack.frames with
  | nil =>
    simp only [Machine.popped, held] at frames
    cases frames
  | cons first rest =>
    rw [Machine.popped_of_active held] at frames
    cases frames
    rw [story]
    exact clear first caller outer held

omit [Host η] in
/-- A machine that has gone back is in the game that was saved. -/
theorem sameGame_of_wentBack {address : Nat} (layout : Story.SameLayout taken.story later.story)
    (status : later.status = taken.status)
    (went : later.WentBack (taken.capture address) restored) :
    taken.SameGame later.story.memory.bytes restored where
  stack := went.stack
  status := went.status.trans status
  format := went.format.trans layout.format
  staticMark := went.memory.staticMark.trans layout.staticMark
  bytes := went.memory.bytes

theorem resumes_by_branch {live : Array UInt8} (same : taken.SameGame live restored)
    (executes : saving.Executes save) (back : later.Executes restore)
    (saveRan : dispatch save saving.counted = finishSave save true taken)
    (restoreRan : dispatch restore later.counted =
      (if save.branch.isSome then branchOn save true else finishWith save 2) restored)
    (branches : save.branch.isSome = true) (active : taken.stack.isEmpty = false)
    (clear : save.returnsOn true = true → taken.ReturnsClear) (input : Option InputResponse) :
    ∃ saved resumed, step none saving = .ok () saved ∧ step input later = .ok () resumed ∧
      saved.SameGame live resumed ∧ (branchOn save true >>= advance) restored = .ok () resumed := by
  rw [finishSave, if_pos branches] at saveRan
  rw [if_pos branches] at restoreRan
  obtain ⟨saved, resumed, here, there, kept⟩ := same.branch active clear
  exact ⟨saved, resumed, step_of_dispatch executes saveRan here none,
    step_of_dispatch back restoreRan there input, kept, there⟩

theorem resumes_by_store {live : Array UInt8} (same : taken.SameGame live restored)
    (executes : saving.Executes save) (back : later.Executes restore)
    (saveRan : dispatch save saving.counted = finishSave save true taken)
    (restoreRan : dispatch restore later.counted =
      (if save.branch.isSome then branchOn save true else finishWith save 2) restored)
    (plain : save.branch.isSome = false) {store : Store} (stores : save.store = some store)
    {frame : Frame} {outer : List Frame} (frames : taken.stack.frames = frame :: outer)
    (writable : taken.story.Writable frame store.target.toNat)
    (outside : firstGlobal ≤ store.target.toNat →
      headerSize ≤ taken.story.globalAddress store.target.toNat) (input : Option InputResponse) :
    ∃ saved resumed replaced, step none saving = .ok () saved ∧
      step input later = .ok () resumed ∧ peekVariable store.target.toNat saved = .ok 1 saved ∧
      replaceVariable store.target.toNat 2 saved = .ok () replaced ∧
      replaced.SameGame live resumed := by
  have clear : taken.story.ClearOfFlags store.target.toNat := by
    intro shared
    have := outside shared
    simp only [headerSize] at this
    omega
  rw [finishSave_of_plain plain] at saveRan
  rw [if_neg (by simp [plain])] at restoreRan
  obtain ⟨saved, replaced, saveStored, other, peeked, swapped⟩ :=
    replaceVariable_of_stored frames writable outside 1 2 save.next
  obtain ⟨replaced', resumed, here, there, kept⟩ := same.store frames writable clear 2 save.next
  rw [other] at here
  cases here
  rw [← finishWith_advance stores] at saveStored there
  exact ⟨saved, resumed, replaced, step_of_dispatch executes saveRan saveStored none,
    step_of_dispatch back restoreRan there input, peeked, swapped, kept⟩

/-- A game is resumed where it was saved. Up to version 3 the save branches once more, as one that
succeeded. Later its result is 2 in place of 1. Nothing else is different but the player's flags,
which stay as they are when the game is restored. -/
theorem step_resumes_saved_game (executes : saving.Executes save)
    (saves : saving.Saves save snapshot) (resumable : saving.Resumable save)
    (inputs : List (Option InputResponse)) (reached : saving.afterSteps inputs = later)
    (identity : later.story.memory.storyId = saving.story.memory.storyId)
    (back : later.Executes restore) (gets : later.GetsBack restore snapshot)
    (input : Option InputResponse) :
    ∃ saved resumed, step none saving = .ok () saved ∧ step input later = .ok () resumed ∧
      (saving.version < .v4 → saved.SameGame later.story.memory.bytes resumed ∧
        ∃ restored, later.WentBack snapshot restored ∧
          (branchOn save true >>= advance) restored = .ok () resumed) ∧
      (.v4 ≤ saving.version → ∃ store replaced, save.store = some store ∧
        peekVariable store.target.toNat saved = .ok 1 saved ∧
        replaceVariable store.target.toNat 2 saved = .ok () replaced ∧
        replaced.SameGame later.story.memory.bytes resumed) := by
  obtain ⟨frame, outer, frames, decoded⟩ := Machine.current_eq_ok executes.decoded
  obtain ⟨early, late⟩ := saves.parts executes
  obtain ⟨taken, popped, saveRan, rfl, story, stack, status⟩ := dispatch_of_saves executes saves
  have layout : Story.SameLayout taken.story later.story := by
    rw [story, ← reached]
    exact .reaches (saving.reaches_afterSteps inputs)
  have fits : (taken.capture save.address).Fits later.story.memory := by
    refine Snapshot.fits_iff.mpr ⟨?_, layout.size.symm⟩
    rw [identity, ← story]
    rfl
  obtain ⟨restored, restoreRan, went⟩ := dispatch_of_getsBack gets fits
  have same := sameGame_of_wentBack layout (back.running.trans (status.trans executes.running).symm)
    went
  have format : saving.story.format = restored.story.format := by rw [same.format, story]
  have kept : FlagsKept saving.story.memory.bytes later.story.memory.bytes
      restored.story.memory.bytes := story ▸ same.bytes
  rw [show (taken.capture save.address).address = save.address from rfl,
    resumeAfter_eq decoded resumable.apart format kept] at restoreRan
  have frames' : taken.stack.frames = frame.popped popped :: outer := by
    rw [stack, Machine.popped_of_active frames]
  rcases Nat.lt_or_ge saving.version.number Version.v4.number with before | after
  · have active : taken.stack.isEmpty = false := by simp [CallStack.isEmpty, frames']
    obtain ⟨saved, resumed, here, there, game, branched⟩ :=
      resumes_by_branch same executes back saveRan restoreRan (early before) active
        (fun returns => returnsClear_of_popped (resumable.returns returns) story stack) input
    exact ⟨saved, resumed, here, there, fun _ => ⟨game, restored, went, branched⟩,
      fun after => absurd before (Nat.not_lt.mpr after)⟩
  · obtain ⟨plain, stored⟩ := late after
    obtain ⟨store, stores⟩ := Option.isSome_iff_exists.mp stored
    have writable : taken.story.Writable (frame.popped popped) store.target.toNat := by
      obtain ⟨top, innermost, writable⟩ := resumable.accepts
      rw [frames] at innermost
      cases innermost
      rw [story]
      exact writable store stores
    obtain ⟨saved, resumed, replaced, here, there, peeked, swapped, game⟩ :=
      resumes_by_store same executes back saveRan restoreRan plain stores frames' writable
        (story ▸ resumable.outside store stores) input
    exact ⟨saved, resumed, here, there, fun before => absurd after (Nat.not_le.mpr before),
      fun _ => ⟨store, replaced, stores, peeked, swapped, game⟩⟩

/-- Snapshots are compared faster with their images as lists. -/
theorem eq_some_of_toList {found : Option Snapshot} {snapshot : Snapshot}
    (same : found.map (fun other => (other.image.toList, other.stack, other.story, other.address)) =
      some (snapshot.image.toList, snapshot.stack, snapshot.story, snapshot.address)) :
    found = some snapshot := by
  obtain ⟨⟨image, stack, story, address⟩, rfl, parts⟩ := Option.map_eq_some_iff.mp same
  obtain ⟨⟨bytes⟩, _, _, _⟩ := snapshot
  cases parts
  rfl

/-- A story of version 3 in a routine that saves and then returns true. The table of globals is at
an address of the first page. -/
def savingIn (kind : RoutineKind) (globals : UInt8) (code : List (Nat × UInt8)) :
    Machine MemoryStore :=
  let machine := Machine.ofBytes .v3 ([(0x0d, globals), (0x51, 0xb5), (0x52, 0xc1)] ++ code)
  let routine : Frame :=
    { kind, address := 0x50, pc := 0x51, locals := [], argumentCount := 0, returnAddress := 0x45 }
  { machine with stack := machine.stack.push routine }

def saveOrReturn : Instruction where
  address := 0x51
  opcode := .ofByte .v3 0xb5
  operands := []
  store := none
  branch := some ⟨0x52, true, 1⟩
  next := 0x53

def restoreAt (address : Nat) : Instruction where
  address
  opcode := .ofByte .v3 0xb6
  operands := []
  store := none
  branch := some ⟨address + 1, true, 1⟩
  next := address + 2

def returning : Machine MemoryStore :=
  savingIn (.function ⟨0x44, 0x10⟩) 0x60 [(0x45, 0xb6), (0x46, 0xc1)]

theorem step_resumes_saved_game_returning :
    ∃ saved resumed, step none returning = .ok () saved ∧ step none saved = .ok () resumed ∧
      saved.story.memory.wordAt 0x60 = 1 ∧ saved.SameGame saved.story.memory.bytes resumed := by
  have executes : returning.Executes saveOrReturn := ⟨rfl, by decide +kernel⟩
  have saves : returning.Saves saveOrReturn (returning.capture 0x51) :=
    .game (by decide +kernel) (by decide +kernel) rfl
  have resumable : returning.Resumable saveOrReturn := by
    refine ⟨.inr (by decide), by decide +kernel, nofun, fun _ => ?_⟩
    intro frame caller outer frames
    cases frames
    exact ⟨by decide +kernel, fun _ => .inr (by decide +kernel)⟩
  have back : (returning.afterSteps [none]).Executes (restoreAt 0x45) :=
    ⟨by decide +kernel, by decide +kernel⟩
  have gets : (returning.afterSteps [none]).GetsBack (restoreAt 0x45) (returning.capture 0x51) :=
    .game (by decide +kernel) (by decide +kernel) (eq_some_of_toList (by decide +kernel))
  obtain ⟨saved, resumed, here, there, early, -⟩ := step_resumes_saved_game executes saves resumable
    [none] rfl (by decide +kernel) back gets none
  have same : returning.afterSteps [none] = saved := by
    rw [Machine.afterSteps, List.foldl_cons, List.foldl_nil, here, finalState]
  have result : (returning.afterSteps [none]).story.memory.wordAt 0x60 = 1 := by decide +kernel
  obtain ⟨game, -⟩ := early (by decide)
  rw [same] at there game result
  exact ⟨saved, resumed, here, there, result, game⟩

/-- A machine saves, goes on, and gets back what it saved, but is not where it was then. -/
structure Strays (saving : Machine η) (save : Instruction)
    (inputs : List (Option InputResponse)) (restore : Instruction) : Prop where
  executes : saving.Executes save
  saves : saving.Saves save (saving.capture save.address)
  apart : save.next ≤ 0x10 ∨ 0x12 ≤ save.address
  plain : save.store = none
  identity : (saving.afterSteps inputs).story.memory.storyId = saving.story.memory.storyId
  back : (saving.afterSteps inputs).Executes restore
  gets : (saving.afterSteps inputs).GetsBack restore (saving.capture save.address)
  elsewhere : ¬ (finalState (step none saving)).SameGame
    (saving.afterSteps inputs).story.memory.bytes
    (finalState (step none (saving.afterSteps inputs)))

theorem strays_of_checked {saving : Machine MemoryStore} {inputs : List (Option InputResponse)}
    {address : Nat} (running : saving.status = .running) (version : saving.version = .v3)
    (checked : let later := saving.afterSteps inputs
      saving.current = .ok saveOrReturn ∧ later.status = .running ∧ later.version = .v3 ∧
        later.current = .ok (restoreAt address) ∧
        later.story.memory.storyId = saving.story.memory.storyId ∧
        (SaveStore.restore later.host).1.map
            (fun other => (other.image.toList, other.stack, other.story, other.address)) =
          some (saving.story.memory.bytes.toList, saving.stack, saving.story.memory.storyId, 0x51))
    (elsewhere : ¬ (finalState (step none saving)).SameGame
      (saving.afterSteps inputs).story.memory.bytes
      (finalState (step none (saving.afterSteps inputs)))) :
    Strays saving saveOrReturn inputs (restoreAt address) := by
  obtain ⟨decoded, running', version', decoded', identity, found⟩ := checked
  have saves : saving.Saves saveOrReturn (saving.capture 0x51) :=
    .game rfl (by rw [version]; rfl) rfl
  have gets : (saving.afterSteps inputs).GetsBack (restoreAt address) (saving.capture 0x51) :=
    .game rfl (by rw [version']; rfl) (eq_some_of_toList found)
  exact ⟨⟨running, decoded⟩, saves, .inr (by decide), rfl, identity, ⟨running', decoded'⟩, gets,
    elsewhere⟩

/-- The routine's result goes to the second flag word, and its caller clears that word before it
restores. -/
def flagging : Machine MemoryStore :=
  savingIn (.function ⟨0x44, 0x10⟩) 0x10 [(0x45, 0x0d), (0x46, 0x10), (0x48, 0xb6), (0x49, 0xc1)]

/-- The routine's result goes to a local variable that its caller does not have. -/
def misdirecting : Machine MemoryStore :=
  savingIn (.function ⟨0x44, 5⟩) 0x60 [(0x53, 0xb6), (0x54, 0xc1)]

/-- The routine was called while a line was read, and ends the read. -/
def interrupting : Machine MemoryStore :=
  let read : Instruction :=
    { address := 0x40, opcode := .ofByte .v3 0xe4,
      operands := [⟨.smallConstant, 0x58⟩, ⟨.smallConstant, 0⟩],
      store := none, branch := none, next := 0x44 }
  { savingIn .interrupt 0x60 [(0x44, 0xb6), (0x45, 0xc1), (0x58, 5)] with
    pending := some ⟨read, [0x58, 0], .line 4 [] [] 0 0, [], {}⟩ }

/-- A game is not taken up where it was, if the branch of the save returns to the player's flags,
to a variable that is not there, or to a read. -/
theorem step_resumes_elsewhere :
    Strays flagging saveOrReturn [none, none] (restoreAt 0x48) ∧
      Strays misdirecting saveOrReturn [none] (restoreAt 0x53) ∧
      Strays interrupting saveOrReturn [none] (restoreAt 0x44) := by
  refine ⟨strays_of_checked rfl rfl (by decide +kernel) fun same => ?_,
    strays_of_checked rfl rfl (by decide +kernel) fun same => ?_,
    strays_of_checked rfl rfl (by decide +kernel) fun same => ?_⟩
  · exact absurd (same.bytes.player 0 (by decide)) (by decide +kernel)
  · exact absurd same.stack (by decide +kernel)
  · exact absurd same.stack (by decide +kernel)

end Engine

end StoryMachine
