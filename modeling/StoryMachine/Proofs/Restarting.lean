import StoryMachine.Proofs.Interrupts

/-! A restart takes a story back to its first state: memory but for the second flag word, and the
call stack. Output is no longer kept for tables, and random numbers start over. Where output goes
otherwise is for the player to say, and stays as it is. -/

namespace StoryMachine

variable {η : Type} [Host η]

namespace Engine

def restarted (machine : Machine η) (snapshot : Snapshot) (memory : Memory) : Machine η :=
  { machine with
    story := { machine.story with
      memory := memory.setHeaderWord .flags2 (machine.story.memory.headerWord .flags2) }
    stack := snapshot.stack
    captures := []
    randomMode := .random
    host := Presentation.notify .reset
      (RandomSource.seed machine.config.randomSeed machine.host) }

theorem restart_of_initial {machine : Machine η} {snapshot : Snapshot} {memory : Memory}
    {frame : Frame} {outer : List Frame} (initial : machine.initial = some snapshot)
    (replaced : machine.story.memory.replace snapshot.image = .ok memory)
    (frames : snapshot.stack.frames = frame :: outer) :
    restart machine = .ok (.goto frame.pc) (restarted machine snapshot memory) := by
  have placed : (update (Update.modifyMemory (·.replace snapshot.image)) : Engine η Unit) machine =
      .ok () { machine with story := { machine.story with memory } } := by
    simp only [update, Update.modifyMemory, replaced]
  have top : queryStack (·.top) (restarted machine snapshot memory) =
      .ok frame (restarted machine snapshot memory) := by
    simp only [queryStack, restarted, CallStack.top, frames]
  unfold restart
  rw [get_bind]
  simp only [initial]
  rw [bind_of_ok placed]
  exact bind_of_ok top

/-- The step that executes a restart works, and leaves the pc where the snapshot has it. -/
theorem step_of_restart {machine : Machine η} {instruction : Instruction} {snapshot : Snapshot}
    {memory : Memory} {frame : Frame} {outer : List Frame}
    (executes : machine.Executes instruction)
    (restarts : instruction.opcode.operation? = some .restart)
    (initial : machine.initial = some snapshot)
    (replaced : machine.story.memory.replace snapshot.image = .ok memory)
    (frames : snapshot.stack.frames = frame :: outer) (input : Option InputResponse) :
    step input machine = .ok () (restarted machine.counted snapshot memory) := by
  have counted : machine.counted.initial = some snapshot := initial
  have dispatched : dispatch instruction machine.counted =
      .ok (.goto frame.pc) (restarted machine.counted snapshot memory) := by
    rw [dispatch_of_available machine.counted restarts rfl]
    exact restart_of_initial counted replaced frames
  have active : (restarted machine.counted snapshot memory).stack.frames = frame :: outer := frames
  have same : (restarted machine.counted snapshot memory).stack = ⟨frame :: outer⟩ :=
    congrArg CallStack.mk frames
  rw [step_of_ok executes dispatched]
  change setPc frame.pc _ = _
  rw [setPc_of_active active, ← same]

end Engine

/-- Whatever happened since the start, the step that executes a restart works. It brings back memory
as it was after the start, except for the second flag word, and the whole call stack. No table takes
output any more, and the random numbers are seeded anew. Whether output goes to the screen and
commands to a script stays as it was, and no read becomes pending. -/
theorem Machine.restart_returns_to_start {fresh started : Machine η}
    (begun : Engine.start fresh = .ok () started) (inputs : List (Option InputResponse))
    {instruction : Instruction} (executes : (started.afterSteps inputs).Executes instruction)
    (restarts : instruction.opcode.operation? = some .restart) (input : Option InputResponse) :
    let reached := started.afterSteps inputs
    ∃ after, Engine.step input reached = .ok () after ∧
      after.story.memory.size = started.story.memory.size ∧
      (∀ address, address ≠ 0x10 → address ≠ 0x11 →
        after.story.memory.byteAt address = started.story.memory.byteAt address) ∧
      after.story.memory.wordAt 0x10 = reached.story.memory.wordAt 0x10 ∧
      after.stack = started.stack ∧
      after.captures = [] ∧
      after.screen = reached.screen ∧ after.commandScript = reached.commandScript ∧
      (reached.pending = none → after.pending = none) ∧
      after.randomMode = .random ∧
      after.host = Presentation.notify .reset
        (RandomSource.seed fresh.config.randomSeed reached.host) := by
  intro reached
  obtain ⟨frame, frames, -, -, -, initial⟩ := (Engine.begun_start begun).frames
  have reaches : Reaches started reached := started.reaches_afterSteps inputs
  have layout := Story.SameLayout.reaches reaches
  have start : Reaches fresh started := by
    have reaches := Engine.reaches_start fresh
    rwa [begun] at reaches
  have kept : reached.initial = some (started.capture frame.pc) :=
    (initial_afterSteps begun inputs).trans initial
  have config : reached.config = fresh.config := config_of_reaches (start.trans reaches)
  have size : (started.capture frame.pc).image.size = reached.story.memory.size := layout.size.symm
  obtain ⟨memory, replaced, bytes, -⟩ := Memory.replace_of_size size
  have inside : 0x10 + 1 < memory.size := (memory.headerWord_inside .flags2).2
  have written (address : Nat) :=
    Memory.byteAt_putWord inside (reached.story.memory.headerWord .flags2) address
  have restored (address : Nat) : memory.byteAt address = started.story.memory.byteAt address :=
    congrArg (imageByte · address) bytes
  refine ⟨_, Engine.step_of_restart executes restarts kept replaced frames input, ?_, ?_, ?_, rfl,
    rfl, rfl, rfl, id, rfl, ?_⟩
  · have same : memory.size = started.story.memory.size := congrArg Array.size bytes
    simpa [Engine.restarted, Memory.setHeaderWord, Memory.putWord, Memory.put, Memory.size]
      using same
  · intro address high low
    calc (memory.putWord 0x10 (reached.story.memory.headerWord .flags2)).byteAt address
      _ = memory.byteAt address := by rw [written, if_neg low, if_neg high]
      _ = started.story.memory.byteAt address := restored address
  · exact Memory.wordAt_putWord inside _
  · rw [← config]
    rfl

/-- A story of version 5 that prints a letter, asks for a font of fixed pitch, writes a word at
0x5a, turns the screen off and the script of commands on, and starts again. -/
def silencingImage : Array UInt8 :=
  imageOfBytes 0x60 [(0x00, 5), (0x07, 0x40), (0x0f, 0x60), (0x40, 0xe5), (0x41, 0x7f), (0x42, 65),
    (0x43, 0xe2), (0x44, 0x57), (0x46, 0x11), (0x47, 2), (0x48, 0xe1), (0x49, 0x53), (0x4b, 0x2d),
    (0x4c, 0x12), (0x4d, 0x34), (0x4e, 0xf3), (0x4f, 0x3f), (0x50, 0xff), (0x51, 0xff),
    (0x52, 0xf3), (0x53, 0x7f), (0x54, 4), (0x55, 0xb7)]

def silencingSteps : List (Option InputResponse) :=
  List.replicate 5 none

theorem Machine.restart_returns_to_start_silencingImage :
    ∃ started, Machine.started? silencingImage = some started ∧
      let reached := started.afterSteps silencingSteps
      reached.story.memory.wordAt 0x5a = 0x1234 ∧
        ∃ after, Engine.step none reached = .ok () after ∧
          after.story.memory.byteAt 0x5a = 0 ∧ after.story.memory.wordAt 0x10 = 2 ∧
          after.stack = started.stack ∧
          after.screen = false ∧ after.commandScript = true := by
  have facts : (Machine.started? silencingImage).map (fun started =>
      let reached := started.afterSteps silencingSteps
      (reached.nextOperation?, reached.story.memory.wordAt 0x5a, reached.story.memory.wordAt 0x10,
        started.story.memory.byteAt 0x5a, reached.screen, reached.commandScript)) =
      some (some .restart, 0x1234, 2, 0, false, true) := by
    decide +kernel
  obtain ⟨started, begun, facts⟩ := Option.map_eq_some_iff.mp facts
  simp only [Prod.mk.injEq] at facts
  obtain ⟨restarting, word, flags, byte, screen, script⟩ := facts
  obtain ⟨fresh, -, start⟩ := Machine.started?_eq_some begun
  obtain ⟨instruction, executes, restarts⟩ := nextOperation?_eq_some restarting
  obtain ⟨after, ran, -, elsewhere, live, stack, -, shown, noted, -⟩ :=
    restart_returns_to_start start silencingSteps executes restarts none
  exact ⟨started, begun, word, after, ran, (elsewhere 0x5a (by decide) (by decide)).trans byte,
    live.trans flags, stack, shown.trans screen, noted.trans script⟩

/-- A story of version 5 that reads a character, with a routine to call after a tenth of a second
that starts the story again. -/
def restlessImage : Array UInt8 :=
  imageOfBytes 0x60 [(0x00, 5), (0x07, 0x40), (0x0f, 0x58), (0x40, 0xf6), (0x41, 0x57), (0x42, 1),
    (0x43, 1), (0x44, 0x14), (0x46, 0xba), (0x51, 0xb7), (0x55, 0xb1)]

/-- A restart neither turns the screen on again nor the script of commands off, and a read that it
interrupts stays pending. -/
theorem Machine.restart_keeps_streams_and_read :
    (∃ started, Machine.started? silencingImage = some started ∧
      started.screen = true ∧ started.commandScript = false ∧
      (started.afterSteps silencingSteps).nextOperation? = some .restart ∧
      let after := started.afterSteps (silencingSteps ++ [none])
      after.screen = false ∧ after.commandScript = true) ∧
    ∃ started, Machine.started? restlessImage = some started ∧ started.pending = none ∧
      (started.afterSteps [none, some timePassed]).nextOperation? = some .restart ∧
      (started.afterSteps [none, some timePassed, none]).pending ≠ none := by
  have streams : (Machine.started? silencingImage).map (fun started =>
      let after := started.afterSteps (silencingSteps ++ [none])
      (started.screen, started.commandScript, (started.afterSteps silencingSteps).nextOperation?,
        after.screen, after.commandScript)) = some (true, false, some .restart, false, true) := by
    decide +kernel
  have read : (Machine.started? restlessImage).map (fun started =>
      (started.pending.isNone, (started.afterSteps [none, some timePassed]).nextOperation?,
        (started.afterSteps [none, some timePassed, none]).pending.isSome)) =
      some (true, some .restart, true) := by
    decide +kernel
  constructor
  · obtain ⟨started, begun, facts⟩ := Option.map_eq_some_iff.mp streams
    simp only [Prod.mk.injEq] at facts
    obtain ⟨screen, script, restarting, off, on⟩ := facts
    exact ⟨started, begun, screen, script, restarting, off, on⟩
  · obtain ⟨started, begun, facts⟩ := Option.map_eq_some_iff.mp read
    simp only [Prod.mk.injEq] at facts
    obtain ⟨idle, restarting, waits⟩ := facts
    exact ⟨started, begun, Option.isNone_iff_eq_none.mp idle, restarting,
      Option.isSome_iff_ne_none.mp waits⟩

end StoryMachine
