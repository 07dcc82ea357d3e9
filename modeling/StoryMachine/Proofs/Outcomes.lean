import StoryMachine.Proofs.Quiet

/-! What an operation can come to. It is quiet at first; it may then save, restore, undo or restart;
and in the end it goes on, fails, quits, waits for input or returns from a routine. Only a call,
once its operands are evaluated, enters a routine. -/

namespace StoryMachine

variable {η : Type} [Host η]

inductive Returned (frame : Frame) (value : UInt16) (before : Machine η) :
    EStateM.Result Error (Machine η) Continuation → Prop where
  | last (empty : before.stack.isEmpty = true) : Returned frame value before (.ok .quit before)
  | stored {store : Store} {after : Machine η} (active : before.stack.isEmpty = false)
      (kind : frame.kind = .function store)
      (written : Engine.writeVariable store.target.toNat value before = .ok () after) :
      Returned frame value before (.ok (.goto frame.returnAddress) after)
  | unstored {store : Store} {error : Error} {after : Machine η}
      (active : before.stack.isEmpty = false) (kind : frame.kind = .function store)
      (failed : Engine.writeVariable store.target.toNat value before = .error error after) :
      Returned frame value before (.error error after)
  | dropped (active : before.stack.isEmpty = false) (kind : frame.kind = .procedure) :
      Returned frame value before (.ok (.goto frame.returnAddress) before)
  | resumed (active : before.stack.isEmpty = false) (kind : frame.kind = .interrupt) :
      Returned frame value before (.ok (.resume frame.returnAddress value) before)

/-- How the last part of an operation ends. A throw takes the frames that are `left` off the
stack before it returns. -/
inductive Finished (before : Machine η) :
    EStateM.Result Error (Machine η) Continuation → Prop where
  | went {after : Machine η} (quiet : Quiet before after) (address : Nat) :
      Finished before (.ok (.goto address) after)
  | failed {after : Machine η} (quiet : Quiet before after) (error : Error) :
      Finished before (.error error after)
  | stopped {after : Machine η} (quiet : Quiet before after) : Finished before (.ok .quit after)
  | waits {middle : Machine η} (quiet : Quiet before middle) (pending : PendingRead)
      (shown : pending.input = pending.request.preloaded) :
      Finished before (.ok (.await pending.request) { middle with pending := some pending })
  | returns {middle : Machine η} (quiet : Quiet before middle) {left outer : List Frame}
      {frame : Frame} (frames : middle.stack.frames = left ++ frame :: outer) {value : UInt16}
      {result : EStateM.Result Error (Machine η) Continuation}
      (returned : Returned frame value { middle with stack := ⟨outer⟩ } result) :
      Finished before result

theorem Finished.of_quiet {before middle : Machine η}
    {result : EStateM.Result Error (Machine η) Continuation} (quiet : Quiet before middle)
    (finished : Finished middle result) : Finished before result := by
  cases finished with
  | went later address => exact .went (quiet.trans later) address
  | failed later error => exact .failed (quiet.trans later) error
  | stopped later => exact .stopped (quiet.trans later)
  | waits later pending shown => exact .waits (quiet.trans later) pending shown
  | returns later frames returned => exact .returns (quiet.trans later) frames returned

inductive Entered (address : Nat) (arguments : List UInt16) (before : Machine η) :
    EStateM.Result Error (Machine η) Continuation → Prop where
  | skipped {after : Machine η} (quiet : Quiet before after) (next : Nat) :
      Entered address arguments before (.ok (.goto next) after)
  | failed {after : Machine η} (quiet : Quiet before after) (error : Error) :
      Entered address arguments before (.error error after)
  | pushed {start : Nat} {locals : List UInt16}
      (found : before.story.routine address = .ok (start, locals)) (kind : RoutineKind)
      (returnAddress : Nat) :
      Entered address arguments before (.ok (.goto start) { before with
        stack := before.stack.push
          { kind, address, pc := start, locals := passArguments arguments locals,
            argumentCount := UInt8.ofNat arguments.length, returnAddress } })

/-- What a call passes on: the operands after the routine, or nothing. -/
def Operation.arguments : Operation → Operands → List UInt16
  | call1s | call1n => fun _ => []
  | _ => Operands.rest

inductive Called (instruction : Instruction) (arguments : Operands → List UInt16)
    (before : Machine η) : EStateM.Result Error (Machine η) Continuation → Prop where
  | unevaluated {after : Machine η} (quiet : Quiet before after) (error : Error) :
      Called instruction arguments before (.error error after)
  | evaluated {required : Nat} {operands : Operands} {middle : Machine η}
      {result : EStateM.Result Error (Machine η) Continuation}
      (ran : Engine.evaluate instruction required before = .ok operands middle)
      (entered : Entered (middle.story.format.routineAddress operands.first) (arguments operands)
        middle result) : Called instruction arguments before result

/-- What an operation can do with snapshots: keep one, go back to one, or find that it cannot. -/
inductive SnapshotAction (before : Machine η) : Machine η → Prop where
  | none : SnapshotAction before before
  | saved (address : Nat) : SnapshotAction before
      { before with host := (SaveStore.save (before.capture address) before.host).2 }
  | missed : SnapshotAction before { before with host := (SaveStore.restore before.host).2 }
  | restored {snapshot : Snapshot} {after : Machine η}
      (found : (SaveStore.restore before.host).1 = some snapshot)
      (went : { before with host := (SaveStore.restore before.host).2 }.restore? snapshot =
        some after) : SnapshotAction before after
  | noted (address : Nat) :
      SnapshotAction before { before with undo := before.undo.push (before.capture address) }
  | dropped {snapshot : Snapshot} {undo : UndoHistory}
      (popped : before.undo.pop? = some (snapshot, undo)) :
      SnapshotAction before { before with undo }
  | undone {snapshot : Snapshot} {undo : UndoHistory} {after : Machine η}
      (popped : before.undo.pop? = some (snapshot, undo))
      (went : { before with undo }.restore? snapshot = some after) : SnapshotAction before after
  | restarted {snapshot : Snapshot} {memory : Memory} (initial : before.initial = some snapshot)
      (replaced : before.story.memory.replace snapshot.image = .ok memory) :
      SnapshotAction before { before with
        story := { before.story with
          memory := memory.setHeaderWord .flags2 (before.story.memory.headerWord .flags2) }
        stack := snapshot.stack
        captures := []
        randomMode := .random
        host := RandomSource.seed before.config.randomSeed before.host }

inductive Performed (before : Machine η) :
    EStateM.Result Error (Machine η) Continuation → Prop where
  | intro {started middle : Machine η} {result : EStateM.Result Error (Machine η) Continuation}
      (quiet : Quiet before started) (snapshots : SnapshotAction started middle)
      (finished : Finished middle result) : Performed before result
  | called {started : Machine η} {instruction : Instruction} {arguments : Operands → List UInt16}
      {result : EStateM.Result Error (Machine η) Continuation} (quiet : Quiet before started)
      (called : Called instruction arguments started result) : Performed before result

/-- What carrying out an instruction can come to that does not go back to a snapshot. -/
inductive Onward (instruction : Instruction) (before : Machine η) :
    EStateM.Result Error (Machine η) Continuation → Prop where
  | settled {started : Machine η} {host : η} {undo : UndoHistory}
      {result : EStateM.Result Error (Machine η) Continuation} (quiet : Quiet before started)
      (finished : Finished { started with host, undo } result) : Onward instruction before result
  | called {operation : Operation} {result : EStateM.Result Error (Machine η) Continuation}
      (means : instruction.opcode.operation? = some operation)
      (called : Called instruction operation.arguments before result) :
      Onward instruction before result

/-- What carrying out an instruction can come to that calls nothing. -/
def Settled (before : Machine η) (result : EStateM.Result Error (Machine η) Continuation) : Prop :=
  ∃ started middle, Quiet before started ∧ SnapshotAction started middle ∧ Finished middle result

theorem Finished.settled {before : Machine η}
    {result : EStateM.Result Error (Machine η) Continuation} (finished : Finished before result) :
    Settled before result :=
  ⟨before, before, .refl before, .none, finished⟩

def Finishes (action : Engine η Continuation) : Prop :=
  ∀ before, Finished before (action before)

def Settles (action : Engine η Continuation) : Prop :=
  ∀ before, Settled before (action before)

def Performs (action : Engine η Continuation) : Prop :=
  ∀ before, Performed before (action before)

theorem Finishes.ite {condition : Prop} [Decidable condition] {first second : Engine η Continuation}
    (yes : Finishes first) (no : Finishes second) :
    Finishes (if condition then first else second) := by
  split
  · exact yes
  · exact no

theorem Keeps.finishes {first : Engine η α} {next : α → Engine η Continuation}
    (here : Keeps Quiet first) (there : ∀ value, Finishes (next value)) :
    Finishes (first >>= next) := by
  intro before
  have quiet := here before
  cases ran : first before with
  | ok value middle =>
    rw [bind_of_ok ran]
    rw [ran] at quiet
    exact (there value middle).of_quiet quiet
  | error error after =>
    rw [bind_of_error ran]
    rw [ran] at quiet
    exact .failed quiet error

theorem Keeps.finishes_ite {condition : Prop} [Decidable condition] {first : Engine η Unit}
    {next : Unit → Engine η Continuation} (here : Keeps Quiet first)
    (there : ∀ value, Finishes (next value)) :
    Finishes (if condition then first >>= next else next ()) :=
  (here.finishes there).ite (there ())

theorem Keeps.settles {first : Engine η α} {next : α → Engine η Continuation}
    (here : Keeps Quiet first) (there : ∀ value, Settles (next value)) :
    Settles (first >>= next) := by
  intro before
  have quiet := here before
  cases ran : first before with
  | ok value middle =>
    rw [bind_of_ok ran]
    rw [ran] at quiet
    obtain ⟨started, after, later, snapshots, finished⟩ := there value middle
    exact ⟨started, after, quiet.trans later, snapshots, finished⟩
  | error error after =>
    rw [bind_of_error ran]
    rw [ran] at quiet
    exact ⟨after, after, quiet, .none, .failed (.refl after) error⟩

def Archives (action : Engine η α) : Prop :=
  ∀ before, ∃ value after, action before = .ok value after ∧ SnapshotAction before after

theorem Archives.settles {first : Engine η α} {next : α → Engine η Continuation}
    (here : Archives first) (there : ∀ value, Finishes (next value)) :
    Settles (first >>= next) := by
  intro before
  obtain ⟨value, middle, ran, snapshots⟩ := here before
  rw [bind_of_ok ran]
  exact ⟨before, middle, .refl before, snapshots, there value middle⟩

end StoryMachine
