import StoryMachine.Proofs.Interrupts

/-! Undo over whole runs. A ledger lists every snapshot that was taken for undo, with what became of
it; the history of the machine holds the snapshots that the ledger has as held. An undo goes back to
the latest snapshot that was not undone yet, and finds nothing only when none is held. -/

namespace StoryMachine

inductive UndoFate where
  | held
  /-- An undo went back to it. -/
  | undone
  /-- It was the oldest of ten when a further one was taken. -/
  | discarded
  deriving DecidableEq

structure UndoEntry where
  snapshot : Snapshot
  fate : UndoFate

/-- All snapshots that were taken for undo, the latest first. -/
abbrev UndoLedger := List UndoEntry

namespace UndoLedger

def held : UndoLedger → List Snapshot
  | [] => []
  | entry :: older => if entry.fate = .held then entry.snapshot :: held older else held older

def discardOldest : UndoLedger → UndoLedger
  | [] => []
  | entry :: older =>
    if entry.fate = .held ∧ held older = [] then { entry with fate := .discarded } :: older
    else entry :: discardOldest older

/-- Enter a further snapshot. Ten are held at most. -/
def enter (ledger : UndoLedger) (snapshot : Snapshot) : UndoLedger :=
  ⟨snapshot, .held⟩ :: if ledger.held.length = 10 then ledger.discardOldest else ledger

/-- The latest entry that is not undone: the top of a stack without a bound. -/
def latest? (ledger : UndoLedger) : Option UndoEntry :=
  ledger.find? (·.fate ≠ .undone)

def undoLatest : UndoLedger → UndoLedger
  | [] => []
  | entry :: older =>
    match entry.fate with
    | .held => { entry with fate := .undone } :: older
    | .undone => entry :: undoLatest older
    | .discarded => entry :: older

/-- Nothing is held that is older than a discarded snapshot. -/
def Ordered : UndoLedger → Prop
  | [] => True
  | entry :: older => (entry.fate = .discarded → held older = []) ∧ Ordered older

theorem held_discardOldest (ledger : UndoLedger) :
    ledger.discardOldest.held = ledger.held.dropLast := by
  induction ledger with
  | nil => rfl
  | cons entry older ih =>
    unfold discardOldest
    split
    next oldest => simp [held, oldest]
    next other =>
      by_cases fate : entry.fate = .held
      · have more : held older ≠ [] := fun none => other ⟨fate, none⟩
        simp [held, fate, ih, List.dropLast_cons_of_ne_nil more]
      · simp [held, fate, ih]

/-- Where ten snapshots are held at most, a further one pushes out what comes after nine others. -/
theorem held_enter {ledger : UndoLedger} (few : ledger.held.length ≤ 10) (snapshot : Snapshot) :
    (ledger.enter snapshot).held = (snapshot :: ledger.held).take 10 := by
  unfold enter
  split
  next full => simp [held, held_discardOldest, List.dropLast_eq_take, full]
  next room =>
    have short : ledger.held.length ≤ 9 := by omega
    simp [held, List.take_of_length_le short]

theorem held_undoLatest {ledger : UndoLedger} (ordered : ledger.Ordered) :
    ledger.undoLatest.held = ledger.held.tail := by
  induction ledger with
  | nil => rfl
  | cons entry older ih =>
    cases fate : entry.fate with
    | held => simp [undoLatest, held, fate]
    | undone => simp [undoLatest, held, fate, ih ordered.2]
    | discarded => simp [undoLatest, held, fate, ordered.1 fate]

theorem ordered_discardOldest {ledger : UndoLedger} (ordered : ledger.Ordered) :
    ledger.discardOldest.Ordered := by
  induction ledger with
  | nil => exact ordered
  | cons entry older ih =>
    unfold discardOldest
    split
    next oldest => exact ⟨fun _ => oldest.2, ordered.2⟩
    next =>
      refine ⟨fun fate => ?_, ih ordered.2⟩
      rw [held_discardOldest, ordered.1 fate]
      rfl

theorem ordered_enter {ledger : UndoLedger} (ordered : ledger.Ordered) (snapshot : Snapshot) :
    (ledger.enter snapshot).Ordered := by
  unfold enter
  split
  · exact ⟨nofun, ordered_discardOldest ordered⟩
  · exact ⟨nofun, ordered⟩

theorem ordered_undoLatest {ledger : UndoLedger} (ordered : ledger.Ordered) :
    ledger.undoLatest.Ordered := by
  induction ledger with
  | nil => exact ordered
  | cons entry older ih =>
    unfold undoLatest
    split
    next => exact ⟨nofun, ordered.2⟩
    next fate =>
      refine ⟨fun other => ?_, ih ordered.2⟩
      rw [fate] at other
      cases other
    next => exact ordered

theorem held_eq_nil_iff {ledger : UndoLedger} :
    ledger.held = [] ↔ ∀ entry ∈ ledger, entry.fate = .undone ∨ entry.fate = .discarded := by
  induction ledger with
  | nil => simp [held]
  | cons entry older ih => cases fate : entry.fate <;> simp [held, fate, ih]

/-- What is held latest is the latest that is not undone: the discarded are older. -/
theorem latest?_of_held {ledger : UndoLedger} (ordered : ledger.Ordered) {snapshot : Snapshot}
    {rest : List Snapshot} (holds : ledger.held = snapshot :: rest) :
    ledger.latest? = some ⟨snapshot, .held⟩ := by
  induction ledger with
  | nil => cases holds
  | cons entry older ih =>
    obtain ⟨kept, fate⟩ := entry
    cases fate with
    | held =>
      simp only [held, ↓reduceIte, List.cons.injEq] at holds
      simp [latest?, holds.1]
    | undone => exact ih ordered.2 holds
    | discarded =>
      have none : held older = [] := ordered.1 rfl
      have same : held (⟨kept, .discarded⟩ :: older) = held older := rfl
      rw [same, none] at holds
      cases holds

end UndoLedger

variable {η : Type}

def UndoLedger.afterStep (ledger : UndoLedger) (machine : Machine η) : UndoLedger :=
  match machine.executed? with
  | none => ledger
  | some instruction =>
    match instruction.opcode.operation? with
    | some .saveUndo => ledger.enter (machine.capture instruction.address)
    | some .restoreUndo => ledger.undoLatest
    | _ => ledger

def Machine.undoLedger [Host η] (machine : Machine η) (ledger : UndoLedger) :
    List (Option InputResponse) → UndoLedger
  | [] => ledger
  | input :: rest =>
    (finalState (Engine.step input machine)).undoLedger (ledger.afterStep machine) rest

def Machine.undone (machine : Machine η) (snapshot : Snapshot) (memory : Memory)
    (older : List Snapshot) : Machine η :=
  { machine with
    undo := ⟨older⟩
    story := { machine.story with memory }
    stack := snapshot.stack
    captures := []
    pending := none }

def Machine.SameUndo (before after : Machine η) : Prop :=
  after.undo = before.undo

instance : IsPreorder (Machine η) Machine.SameUndo where
  refl _ := rfl
  trans _ _ _ first second := second.trans first

namespace Engine

variable [Host η] {machine : Machine η} {instruction : Instruction}

theorem undo_dispatch_saveUndo (means : instruction.opcode.operation? = some .saveUndo) :
    (finalState (dispatch instruction machine.counted)).undo =
      machine.undo.push (machine.capture instruction.address) := by
  have noted : saveUndo instruction.address machine.counted = .ok () { machine.counted with
      undo := machine.undo.push (machine.capture instruction.address) } := rfl
  have run : perform instruction .saveUndo machine.counted =
      takeUndo instruction machine.counted := rfl
  rw [dispatch_of_available machine.counted means rfl, run, takeUndo, bind_of_ok noted]
  exact (finishes_finishWith instruction 1 _).sameRecords.undo

omit [Host η] in
theorem restoreUndo_of_empty (empty : machine.undo.snapshots = []) :
    restoreUndo machine = .ok none machine := by
  have popped : machine.undo.pop? = none := by rw [UndoHistory.pop?, empty]
  simp only [restoreUndo, get_bind, popped]
  rfl

omit [Host η] in
theorem restoreUndo_of_held {snapshot : Snapshot} {older : List Snapshot}
    (holds : machine.undo.snapshots = snapshot :: older)
    (fits : snapshot.Fits machine.story.memory) :
    ∃ memory, Memory.RestoredFrom snapshot.image machine.story.memory memory ∧
      restoreUndo machine =
        .ok (some snapshot.address) (machine.undone snapshot memory older) := by
  have popped : machine.undo.pop? = some (snapshot, ⟨older⟩) := by rw [UndoHistory.pop?, holds]
  exact restoreUndo_of_fits popped fits

theorem dispatch_of_restoreUndo (means : instruction.opcode.operation? = some .restoreUndo)
    {answer : Option Nat} {after : Machine η} (ran : restoreUndo machine = .ok answer after) :
    dispatch instruction machine =
      (answer.elim (finishWith instruction 0) resumeAfter : Engine η Continuation) after := by
  have run : perform instruction .restoreUndo machine = undo instruction machine := rfl
  rw [dispatch_of_available machine means rfl, run, undo, bind_of_ok ran]
  cases answer <;> rfl

theorem undo_dispatch_restoreUndo (means : instruction.opcode.operation? = some .restoreUndo)
    {answer : Option Nat} {after : Machine η} (ran : restoreUndo machine = .ok answer after) :
    (finalState (dispatch instruction machine)).undo = after.undo := by
  rw [dispatch_of_restoreUndo means ran]
  cases answer with
  | none => exact (finishes_finishWith instruction 0 after).sameRecords.undo
  | some address => exact (finishes_resumeAfter address after).sameRecords.undo

theorem sameRecords_of_finishes {action : Engine η Continuation} (finishes : Finishes action) :
    Keeps Machine.SameRecords action :=
  fun before => (finishes before).sameRecords

theorem sameRecords_evaluate (instruction : Instruction) (required : Nat) :
    Keeps Machine.SameRecords (evaluate instruction required : Engine η Operands) :=
  (quiet_evaluate instruction required).mono fun _ _ => .quiet

theorem sameRecords_saveGame (address : Nat) :
    Keeps Machine.SameRecords (saveGame address : Engine η Bool) :=
  fun _ => ⟨rfl, rfl⟩

theorem sameRecords_restoreGame :
    Keeps Machine.SameRecords (restoreGame : Engine η (Option Nat)) := by
  intro before
  obtain ⟨value, after, ran, ⟨-, rfl⟩ | ⟨snapshot, -, found, went⟩⟩ := restoreGame_cases before
  · rw [ran]
    exact ⟨rfl, rfl⟩
  · obtain ⟨-, memory, -, rfl⟩ := Machine.restore?_eq_some went
    rw [ran]
    exact ⟨rfl, rfl⟩

/-- The two operations on the history for undo apart, no operation changes it. -/
theorem sameRecords_perform {operation : Operation} (saves : operation ≠ .saveUndo)
    (undoes : operation ≠ .restoreUndo) (instruction : Instruction) :
    Keeps Machine.SameRecords (perform instruction operation : Engine η Continuation) := by
  cases used : operation.usesSnapshots with
  | false =>
    cases enters : operation.calls with
    | false => exact sameRecords_of_finishes (finishes_perform instruction operation used enters)
    | true => exact fun before => (called_perform instruction enters before).sameRecords
  | true =>
    cases operation with
    | save =>
      refine (sameRecords_saveGame _).bind fun success => ?_
      exact sameRecords_of_finishes (finishes_finishSave instruction success)
    | saveExt =>
      refine (sameRecords_evaluate instruction 0).bind fun _ => ?_
      refine (sameRecords_saveGame _).bind fun success => ?_
      exact sameRecords_of_finishes (finishes_finishWith instruction _)
    | restore =>
      refine sameRecords_restoreGame.bind fun found => sameRecords_of_finishes ?_
      split
      · exact finishes_resumeAfter _
      · exact finishes_finishSave instruction false
    | restoreExt =>
      refine (sameRecords_evaluate instruction 0).bind fun _ => ?_
      refine sameRecords_restoreGame.bind fun found => sameRecords_of_finishes ?_
      split
      · exact finishes_resumeAfter _
      · exact finishes_finishWith instruction 0
    | restart =>
      intro before
      obtain finished | ⟨snapshot, memory, initial, replaced, finished⟩ := restart_cases before
      · exact finished.sameRecords
      · exact ⟨finished.sameRecords.initial, finished.sameRecords.undo⟩
    | saveUndo => exact absurd rfl saves
    | restoreUndo => exact absurd rfl undoes
    | _ => cases used

theorem sameRecords_dispatch (saves : instruction.opcode.operation? ≠ some .saveUndo)
    (undoes : instruction.opcode.operation? ≠ some .restoreUndo) :
    Keeps Machine.SameRecords (dispatch instruction : Engine η Continuation) := by
  intro before
  cases means : instruction.opcode.operation? with
  | none =>
    unfold dispatch
    simp only [means]
    exact .refl before
  | some operation =>
    rw [means, ne_eq, Option.some.injEq] at saves undoes
    rw [dispatch_of_known means]
    split
    · exact sameRecords_perform saves undoes instruction before
    · exact .refl before

theorem sameUndo_start : Keeps Machine.SameUndo (start : Engine η Unit) := by
  have captured (_ : Unit) : Keeps Machine.SameUndo (do
      let top ← queryStack (·.top)
      modify fun machine =>
        { machine with initial := some (machine.capture top.pc), status := .running } :
      Engine η Unit) :=
    (keeps_queryStack _).bind fun top => keeps_modify fun _ => rfl
  have called (address : Nat) :
      Keeps Machine.SameUndo (call address [] .procedure 0 : Engine η Continuation) := by
    intro before
    have entered := entered_call address [] .procedure 0 before
    generalize call address [] .procedure 0 before = result at entered ⊢
    cases entered with
    | skipped quiet | failed quiet => exact quiet.undo
    | pushed => rfl
  refine Keeps.bind (keeps_modify fun _ => rfl) fun _ => ?_
  apply keeps_get_bind
  intro before
  split
  next => exact (called _).bind (fun _ => captured ()) before
  next =>
    let pc := (before.story.memory.headerWord .initialPC).toNat
    exact captured () { before with
      stack := before.stack.push
        { kind := .procedure, address := pc, pc, locals := [], argumentCount := 0,
          returnAddress := 0 } }

end Engine

/-- The history of a machine is what a ledger has as held, and the machine can go back to any of
it. -/
structure Machine.Tallies (machine : Machine η) (ledger : UndoLedger) (story : StoryId)
    (size : Nat) : Prop where
  held : machine.undo.snapshots = ledger.held
  few : ledger.held.length ≤ 10
  ordered : ledger.Ordered
  fit : ∀ snapshot ∈ ledger.held, snapshot.story = story ∧ snapshot.image.size = size

namespace Machine.Tallies

variable {machine after : Machine η} {ledger : UndoLedger} {story : StoryId} {size : Nat}

theorem of_undo (tallies : machine.Tallies ledger story size)
    (same : after.undo = machine.undo) : after.Tallies ledger story size :=
  { tallies with held := same ▸ tallies.held }

theorem enter (tallies : machine.Tallies ledger story size) {snapshot : Snapshot}
    (named : snapshot.story = story) (sized : snapshot.image.size = size)
    (pushed : after.undo = machine.undo.push snapshot) :
    after.Tallies (ledger.enter snapshot) story size := by
  have held := UndoLedger.held_enter tallies.few snapshot
  constructor
  · rw [pushed, held, UndoHistory.push, tallies.held]
    rfl
  · rw [held]
    exact List.length_take_le 10 _
  · exact UndoLedger.ordered_enter tallies.ordered snapshot
  · intro other member
    rw [held] at member
    obtain rfl | older := List.mem_cons.mp (List.mem_of_mem_take member)
    · exact ⟨named, sized⟩
    · exact tallies.fit other older

theorem undoLatest (tallies : machine.Tallies ledger story size)
    (popped : after.undo.snapshots = ledger.held.tail) :
    after.Tallies ledger.undoLatest story size := by
  have held := UndoLedger.held_undoLatest tallies.ordered
  constructor
  · rw [popped, held]
  · have few := tallies.few
    rw [held, List.length_tail]
    omega
  · exact UndoLedger.ordered_undoLatest tallies.ordered
  · intro other member
    rw [held] at member
    exact tallies.fit other (List.mem_of_mem_tail member)

/-- Undoing finds nothing when nothing is held, and else goes back to what is held latest. -/
theorem restoreUndo (tallies : machine.Tallies ledger story size)
    (named : machine.story.memory.storyId = story) (sized : machine.story.memory.size = size) :
    ledger.held = [] ∧ Engine.restoreUndo machine = .ok none machine ∨
      ∃ snapshot older memory, ledger.held = snapshot :: older ∧
        Memory.RestoredFrom snapshot.image machine.story.memory memory ∧
        Engine.restoreUndo machine =
          .ok (some snapshot.address) (machine.undone snapshot memory older) := by
  cases holds : ledger.held with
  | nil => exact .inl ⟨rfl, Engine.restoreUndo_of_empty (tallies.held.trans holds)⟩
  | cons snapshot older =>
    obtain ⟨same, large⟩ := tallies.fit snapshot (holds ▸ List.mem_cons_self)
    have fits : snapshot.Fits machine.story.memory :=
      Snapshot.fits_iff.mpr ⟨same.trans named.symm, large.trans sized.symm⟩
    obtain ⟨memory, restored, ran⟩ :=
      Engine.restoreUndo_of_held (tallies.held.trans holds) fits
    exact .inr ⟨snapshot, older, memory, rfl, restored, ran⟩

variable [Host η]

theorem undo_dispatch (tallies : machine.Tallies ledger story size)
    (named : machine.story.memory.storyId = story) (sized : machine.story.memory.size = size)
    {instruction : Instruction} (means : instruction.opcode.operation? = some .restoreUndo) :
    (finalState (Engine.dispatch instruction machine)).undo.snapshots = ledger.held.tail := by
  obtain ⟨none, ran⟩ | ⟨snapshot, older, memory, holds, -, ran⟩ := tallies.restoreUndo named sized
  · rw [Engine.undo_dispatch_restoreUndo means ran, tallies.held, none]
    rfl
  · rw [Engine.undo_dispatch_restoreUndo means ran, holds]
    rfl

theorem step (tallies : machine.Tallies ledger story size)
    (named : machine.story.memory.storyId = story) (sized : machine.story.memory.size = size)
    (input : Option InputResponse) :
    (finalState (Engine.step input machine)).Tallies (ledger.afterStep machine) story size := by
  unfold UndoLedger.afterStep
  split
  next idle =>
    apply tallies.of_undo
    by_cases starting : machine.status = .starting
    · have begins : Engine.step input machine = Engine.start machine := by
        unfold Engine.step
        rw [get_bind]
        simp only [starting]
      rw [begins]
      exact Engine.sameUndo_start machine
    · refine (Engine.sameRecords_step_of_idle starting (fun instruction executes => ?_) input).undo
      rw [executed?_eq_some_iff.mpr executes] at idle
      cases idle
  next instruction found =>
    have counted : machine.counted.Tallies ledger story size := tallies.of_undo rfl
    have left := (Engine.sameRecords_step_of_executes (executed?_eq_some_iff.mp found) input).undo
    split
    next means =>
      rw [Engine.undo_dispatch_saveUndo means] at left
      exact tallies.enter named sized left
    next means =>
      apply tallies.undoLatest
      rw [left]
      exact counted.undo_dispatch named sized means
    next saves undoes =>
      exact tallies.of_undo
        (left.trans (Engine.sameRecords_dispatch saves undoes machine.counted).undo)

/-- The history and the ledger of a run agree, as long as the story stays the same. -/
theorem afterSteps (tallies : machine.Tallies ledger story size)
    (sized : machine.story.memory.size = size) (inputs : List (Option InputResponse))
    (named : ∀ earlier, earlier <+: inputs →
      (machine.afterSteps earlier).story.memory.storyId = story) :
    (machine.afterSteps inputs).Tallies (machine.undoLedger ledger inputs) story size := by
  induction inputs generalizing machine ledger with
  | nil => exact tallies
  | cons input rest ih =>
    have stepped := tallies.step (named [] List.nil_prefix) sized input
    have layout := Story.SameLayout.reaches (Engine.reaches_step input machine)
    refine ih stepped (layout.size.trans sized) fun earlier shorter => ?_
    exact named (input :: earlier) ((List.prefix_cons_inj input).mpr shorter)

end Machine.Tallies

/-- Undo is a bounded history, last in, first out. Over any run in which the story in memory keeps
its release, serial number and checksum, an undo goes back to the snapshot that was taken latest and
is not undone. It finds nothing exactly when every snapshot was undone, or discarded as the oldest
of ten. -/
theorem Machine.undo_is_bounded_stack [Host η] {fresh : Machine η}
    (empty : fresh.undo.snapshots = []) (inputs : List (Option InputResponse))
    (same : ∀ earlier, earlier <+: inputs →
      (fresh.afterSteps earlier).story.memory.storyId = fresh.story.memory.storyId)
    {instruction : Instruction} (executes : (fresh.afterSteps inputs).Executes instruction)
    (undoes : instruction.opcode.operation? = some .restoreUndo) (input : Option InputResponse) :
    let reached := fresh.afterSteps inputs
    let ledger := fresh.undoLedger [] inputs
    ∃ answer after, Engine.restoreUndo reached.counted = .ok answer after ∧
      (answer = none ↔ ∀ entry ∈ ledger, entry.fate = .undone ∨ entry.fate = .discarded) ∧
      (answer = none → after = reached.counted ∧ Engine.step input reached =
        (Engine.carryOn instruction (Engine.finishWith instruction 0) >>= Engine.advance) after) ∧
      ∀ address, answer = some address → Engine.step input reached =
          (Engine.carryOn instruction (Engine.resumeAfter address) >>= Engine.advance) after ∧
        ∃ snapshot, ledger.latest? = some ⟨snapshot, .held⟩ ∧ snapshot.address = address ∧
          reached.WentBack snapshot after ∧ after.captures = [] ∧ after.pending = none := by
  intro reached ledger
  have start : fresh.Tallies [] fresh.story.memory.storyId fresh.story.memory.size :=
    ⟨empty, Nat.zero_le 10, trivial, nofun⟩
  have tallies := start.afterSteps rfl inputs same
  have counted : reached.counted.Tallies ledger _ _ := tallies.of_undo rfl
  have layout := Story.SameLayout.reaches (fresh.reaches_afterSteps inputs)
  obtain ⟨none, ran⟩ | ⟨snapshot, older, memory, holds, restored, ran⟩ :=
    counted.restoreUndo (same inputs List.prefix_rfl) layout.size
  · have gone := UndoLedger.held_eq_nil_iff.mp none
    have dispatched := Engine.dispatch_of_restoreUndo undoes ran
    refine ⟨_, _, ran, ⟨fun _ => gone, fun _ => rfl⟩, fun _ => ⟨rfl, ?_⟩, nofun⟩
    exact Engine.step_of_same_dispatch executes dispatched input
  · have latest := UndoLedger.latest?_of_held counted.ordered holds
    have dispatched := Engine.dispatch_of_restoreUndo undoes ran
    refine ⟨_, _, ran, ⟨nofun, fun gone => ?_⟩, nofun, ?_⟩
    · rw [UndoLedger.held_eq_nil_iff.mpr gone] at holds
      cases holds
    · rintro address ⟨⟩
      exact ⟨Engine.step_of_same_dispatch executes dispatched input, snapshot, latest, rfl,
        ⟨restored, rfl, rfl, rfl⟩, rfl, rfl⟩

/-- A story of version 5 that takes two snapshots for undo, and then undoes. -/
def twiceSavingImage : Array UInt8 :=
  imageOfBytes 0x60 [(0x00, 5), (0x07, 0x40), (0x0f, 0x58), (0x40, 0xbe), (0x41, 9), (0x42, 0xff),
    (0x44, 0xbe), (0x45, 9), (0x46, 0xff), (0x48, 0xbe), (0x49, 10), (0x4a, 0xff)]

/-- Once the second snapshot is undone, a further undo goes back to the first. -/
theorem Machine.undo_is_bounded_stack_twiceSavingImage :
    ∃ fresh, Machine.load twiceSavingImage {} ({} : MemoryStore) = .ok fresh ∧
      let reached := fresh.afterSteps (List.replicate 4 none)
      let ledger := fresh.undoLedger [] (List.replicate 4 none)
      ledger.map (·.fate) = [.undone, .held] ∧
        ∃ snapshot after, ledger.latest? = some ⟨snapshot, .held⟩ ∧
          Engine.restoreUndo reached.counted = .ok (some 0x40) after ∧
          reached.WentBack snapshot after := by
  have facts : (Machine.load twiceSavingImage {} ({} : MemoryStore)).toOption.map (fun fresh =>
      let ledger := fresh.undoLedger [] (List.replicate 4 none)
      ((fresh.afterSteps (List.replicate 4 none)).nextOperation?,
        ((List.range 5).all fun count =>
          (fresh.afterSteps ((List.replicate 4 none).take count)).story.memory.storyId =
            fresh.story.memory.storyId),
        ledger.map (·.fate), ledger.latest?.map (·.snapshot.address))) =
      some (some .restoreUndo, true, [.undone, .held], some 0x40) := by
    decide +kernel
  cases loaded : Machine.load twiceSavingImage {} ({} : MemoryStore) with
  | error error =>
    rw [loaded] at facts
    cases facts
  | ok fresh =>
    simp only [loaded, Except.toOption, Option.map_some, Option.some.injEq, Prod.mk.injEq] at facts
    obtain ⟨next, stays, fates, address⟩ := facts
    obtain ⟨instruction, executes, undoes⟩ := nextOperation?_eq_some next
    have same (earlier : List (Option InputResponse))
        (shorter : earlier <+: List.replicate 4 none) :
        (fresh.afterSteps earlier).story.memory.storyId = fresh.story.memory.storyId := by
      have few : earlier.length < 5 := Nat.lt_succ_of_le shorter.length_le
      rw [List.prefix_iff_eq_take.mp shorter]
      exact of_decide_eq_true (List.all_eq_true.mp stays _ (List.mem_range.mpr few))
    have empty : fresh.undo.snapshots = [] := by
      obtain ⟨story, -, rfl⟩ := Machine.eq_of_load loaded
      rfl
    obtain ⟨answer, after, ran, gone, -, back⟩ :=
      undo_is_bounded_stack empty _ same executes undoes none
    cases answer with
    | none =>
      have member : UndoFate.held ∈ [UndoFate.undone, .held] := List.mem_cons_of_mem _ (.head _)
      rw [← fates] at member
      obtain ⟨entry, entered, held⟩ := List.mem_map.mp member
      have lost := gone.mp rfl entry entered
      rw [held] at lost
      simp at lost
    | some found =>
      obtain ⟨-, snapshot, latest, rfl, went, -⟩ := back found rfl
      rw [latest, Option.map_some, Option.some.injEq] at address
      rw [address] at ran
      exact ⟨fresh, rfl, fates, snapshot, after, latest, ran, went⟩

end StoryMachine
