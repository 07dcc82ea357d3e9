import StoryMachine.Proofs.StepOutcomes

/-! A machine that waits for input has the read that it waits for, so that it can take the input.
There is one exception: if a read ends with a mouse click that cannot be noted in memory, the read
is dropped, but the machine goes on waiting, and no response can help it any more. -/

namespace StoryMachine

variable {η : Type}

/-- Tell the story where the mouse was clicked, in both words or in none. -/
def Memory.noteClick (memory : Memory) (column row : UInt16) : Except Error Memory := do
  let memory ← memory.setExtension .mouseX column
  memory.setExtension .mouseY row

namespace Machine

/-- A response ends the read that waits for it with a click that cannot be noted. -/
def LosesClick (machine : Machine η) (response : InputResponse) : Prop :=
  ∃ request pending column row error, machine.status = .reading request ∧
    machine.pending = some pending ∧
    (pending.consume response.values).2 = some (.mouseClick column row) ∧
    machine.story.memory.noteClick column row = .error error

/-- The machine is past its start, and if it waits for input, it has the read that waits. If that
is for a line, the request shows the line so far. -/
structure HasRead (machine : Machine η) : Prop where
  begun : machine.status ≠ .starting
  read : ∀ request, machine.status = .reading request →
    ∃ pending, machine.pending = some pending ∧ pending.request = request
  shown : ∀ request pending, machine.status = .reading request → machine.pending = some pending →
    request.kind = .line → pending.input = request.preloaded

/-- The machine waits for input to a read that is gone. -/
structure Stranded (machine : Machine η) : Prop where
  reading : ∃ request, machine.status = .reading request
  gone : machine.pending = none

theorem HasRead.of_not_reading {machine : Machine η} (begun : machine.status ≠ .starting)
    (idle : ∀ request, machine.status ≠ .reading request) : machine.HasRead :=
  ⟨begun, fun request reading => absurd reading (idle request),
    fun request _ reading => absurd reading (idle request)⟩

theorem HasRead.of_running {machine : Machine η} (running : machine.status = .running) :
    machine.HasRead := by
  refine .of_not_reading ?_ fun request => ?_ <;> rw [running] <;> nofun

theorem HasRead.of_reading {machine : Machine η} {pending : PendingRead}
    (reading : machine.status = .reading pending.request) (stored : machine.pending = some pending)
    (shown : pending.request.kind = .line → pending.input = pending.request.preloaded) :
    machine.HasRead where
  begun := by
    rw [reading]
    nofun
  read request same := by
    rw [reading] at same
    cases same
    exact ⟨pending, stored, rfl⟩
  shown request other same kept := by
    rw [reading] at same
    rw [stored] at kept
    cases same
    cases kept
    exact shown

end Machine

theorem Performed.read_of_await [Host η] {before after : Machine η} {request : InputRequest}
    (performed : Performed before (.ok (.await request) after)) :
    ∃ pending, after.pending = some pending ∧ pending.request = request ∧
      pending.input = request.preloaded := by
  cases performed with
  | intro quiet snapshots finished =>
    cases finished with
    | waits later pending shown => exact ⟨pending, rfl, rfl, shown⟩
    | returns later frames returned => cases returned
  | called quiet called =>
    cases called with
    | evaluated ran entered => cases entered

namespace Engine

/-- Noting a click fails exactly where memory cannot take it. -/
theorem noteClick_eq_error_iff {column row : UInt16} {machine : Machine η} :
    (∃ error after, noteClick (.mouseClick column row) machine = .error error after) ↔
      ∃ error, machine.story.memory.noteClick column row = .error error := by
  have took {entry : ExtensionWord} {value : UInt16} {machine : Machine η} {memory : Memory}
      (written : machine.story.memory.setExtension entry value = .ok memory) :
      update (Update.modifyMemory (·.setExtension entry value)) machine =
        .ok () { machine with story := { machine.story with memory } } := by
    simp only [update, Update.modifyMemory, written]
  have refused {entry : ExtensionWord} {value : UInt16} {machine : Machine η} {error : Error}
      (failed : machine.story.memory.setExtension entry value = .error error) :
      update (Update.modifyMemory (·.setExtension entry value)) machine =
        .error error machine := by
    simp only [update, Update.modifyMemory, failed]
  rw [Memory.noteClick]
  cases first : machine.story.memory.setExtension .mouseX column with
  | error error =>
    constructor
    · rintro -
      exact ⟨error, rfl⟩
    · rintro -
      exact ⟨error, machine, bind_of_error (refused first)⟩
  | ok memory =>
    change _ ↔ ∃ error, memory.setExtension .mouseY row = .error error
    cases second : memory.setExtension .mouseY row with
    | error error =>
      constructor
      · rintro -
        exact ⟨error, rfl⟩
      · rintro -
        exact ⟨error, _, (bind_of_ok (took first)).trans (refused second)⟩
    | ok other =>
      have noted : noteClick (.mouseClick column row) machine = _ :=
        (bind_of_ok (took first)).trans (took second)
      constructor
      · rintro ⟨error, after, failed⟩
        rw [noted] at failed
        cases failed
      · rintro ⟨error, failed⟩
        cases failed

end Engine

section Steps

variable [Host η] {machine : Machine η}

theorem Completed.running {pending : PendingRead} {before : Machine η}
    {result : EStateM.Result Error (Machine η) Unit} (completed : Completed pending before result) :
    (finalState result).status = .running := by
  cases completed with
  | stopped quiet => exact quiet.status
  | went quiet => exact (Engine.status_setPc _ _).trans quiet.status

theorem Resumed.hasRead {before : Machine η} {result : EStateM.Result Error (Machine η) Unit}
    (running : before.status = .running) (resumed : Resumed before result) :
    (finalState result).HasRead := by
  cases resumed with
  | missing => exact .of_running running
  | ended waits completed => exact .of_running completed.running
  | waiting waits request again =>
    refine .of_reading rfl rfl fun _ => ?_
    cases again
    rfl

/-- A running machine waits for input only once it has stored the read. -/
theorem Machine.Stepped.hasRead {result : EStateM.Result Error (Machine η) Unit}
    (running : machine.status = .running) (stepped : machine.Stepped result) :
    (finalState result).HasRead := by
  have dispatched (instruction : Instruction) :
      (finalState (Engine.dispatch instruction machine.counted)).status = .running :=
    (SameSettings.dispatch instruction machine.counted).status.trans running
  cases stepped with
  | idle => exact .of_running running
  | undecoded => exact .of_running running
  | @stopped instruction _ _ _ _ executes failed quiet =>
    have kept := dispatched instruction
    rw [failed] at kept
    exact .of_running (quiet.status.trans kept)
  | @passed instruction _ _ _ executes failed quiet =>
    have kept := dispatched instruction
    rw [failed] at kept
    exact .of_running ((Engine.status_setPc _ _).trans (quiet.status.trans kept))
  | @advanced instruction next after executes ran =>
    have kept := dispatched instruction
    have performed := Engine.performs_dispatch instruction machine.counted
    rw [ran] at kept performed
    cases next with
    | goto address => exact .of_running ((Engine.status_setPc address after).trans kept)
    | quit => exact .of_not_reading nofun nofun
    | resume address value => exact (Engine.resumed_advance address value after).hasRead kept
    | await request =>
      obtain ⟨pending, stored, rfl, shown⟩ := performed.read_of_await
      exact .of_reading rfl stored fun _ => shown

theorem Machine.Answered.hasRead {request : InputRequest} {response : InputResponse}
    {result : EStateM.Result Error (Machine η) Unit} (reading : machine.status = .reading request)
    (reads : machine.HasRead) (kept : ¬ machine.LosesClick response)
    (answered : machine.Answered response result) : (finalState result).HasRead := by
  cases answered with
  | missing none =>
    obtain ⟨pending, stored, -⟩ := reads.read request reading
    rw [none] at stored
    cases stored
  | @lost pending value error after waits ends failed =>
    cases value with
    | mouseClick column row =>
      obtain ⟨other, refused⟩ := Engine.noteClick_eq_error_iff.mp ⟨error, after, failed⟩
      exact absurd ⟨request, pending, column, row, other, reading, waits, ends, refused⟩ kept
    | character | special => cases failed
  | completed waits ends noted completed => exact .of_running completed.running
  | interrupted => exact .of_running rfl
  | uncalled => exact .of_running rfl
  | overflowed => exact reads
  | waiting waits unended same shown => exact .of_reading rfl rfl shown

theorem Machine.HasRead.step (kept : machine.HasRead) {input : Option InputResponse}
    (safe : ∀ response, input = some response → ¬ machine.LosesClick response) :
    (finalState (Engine.step input machine)).HasRead := by
  cases status : machine.status with
  | starting => exact absurd status kept.begun
  | running => exact (Engine.stepped_step status input).hasRead status
  | halted =>
    rw [Engine.step_of_halted status]
    exact kept
  | reading request =>
    cases input with
    | none =>
      rw [Engine.step_of_no_response status]
      exact kept
    | some response =>
      rw [Engine.step_of_response status]
      exact (Engine.answered_takeInput machine response).hasRead status kept (safe response rfl)

/-- A click that cannot be noted takes the read with it. -/
theorem Machine.LosesClick.stranded {response : InputResponse}
    (loses : machine.LosesClick response) :
    (finalState (Engine.step (some response) machine)).Stranded := by
  obtain ⟨request, pending, column, row, error, reading, waits, ends, refused⟩ := loses
  obtain ⟨problem, after, failed⟩ : ∃ problem after,
      Engine.noteClick (.mouseClick column row) { machine with pending := none } =
        .error problem after :=
    Engine.noteClick_eq_error_iff.mpr ⟨error, refused⟩
  have quiet := Engine.quiet_noteClick (.mouseClick column row) { machine with pending := none }
  rw [failed] at quiet
  rw [Engine.step_of_response reading, Engine.takeInput_of_ended waits ends, bind_of_error failed]
  exact ⟨⟨request, quiet.status.trans reading⟩, quiet.pending⟩

/-- Without its read, a machine that waits refuses every response and stays as it is. -/
theorem Machine.Stranded.step_eq (stranded : machine.Stranded) (input : Option InputResponse) :
    Engine.step input machine =
      .error (if input.isSome then .inputWithoutRead else .inputMissing) machine := by
  obtain ⟨⟨request, reading⟩, gone⟩ := stranded
  cases input with
  | none => exact Engine.step_of_no_response reading
  | some response =>
    rw [Engine.step_of_response reading, Engine.takeInput_of_unread gone]
    rfl

/-- The read is gone once a click was lost on the way, and only then. -/
theorem Machine.HasRead.afterSteps (kept : machine.HasRead) (inputs : List (Option InputResponse)) :
    (machine.afterSteps inputs).HasRead ∨
      ∃ earlier response later, inputs = earlier ++ some response :: later ∧
        (machine.afterSteps earlier).LosesClick response := by
  induction inputs generalizing machine with
  | nil => exact .inl kept
  | cons input rest ih =>
    by_cases lost : ∃ response, input = some response ∧ machine.LosesClick response
    · obtain ⟨response, rfl, loses⟩ := lost
      exact .inr ⟨[], response, rest, rfl, loses⟩
    · have safe : ∀ response, input = some response → ¬ machine.LosesClick response :=
        fun response given loses => lost ⟨response, given, loses⟩
      obtain safe | ⟨earlier, response, later, rfl, loses⟩ := ih (kept.step safe)
      · exact .inl safe
      · exact .inr ⟨input :: earlier, response, later, rfl, loses⟩

theorem Machine.Stranded.afterSteps (stranded : machine.Stranded)
    (inputs : List (Option InputResponse)) : machine.afterSteps inputs = machine := by
  induction inputs with
  | nil => rfl
  | cons input rest ih =>
    have stays : finalState (Engine.step input machine) = machine := by
      rw [stranded.step_eq input]
      rfl
    exact (congrArg (Machine.afterSteps · rest) stays).trans ih

theorem Machine.LosesClick.afterSteps {earlier : List (Option InputResponse)}
    {response : InputResponse} (loses : (machine.afterSteps earlier).LosesClick response)
    (later : List (Option InputResponse)) :
    (machine.afterSteps (earlier ++ some response :: later)).Stranded := by
  have split : machine.afterSteps (earlier ++ some response :: later) =
      (finalState (Engine.step (some response) (machine.afterSteps earlier))).afterSteps later :=
    List.foldl_append
  rw [split, loses.stranded.afterSteps later]
  exact loses.stranded

theorem Machine.HasRead.kept_or_stranded (kept : machine.HasRead)
    (inputs : List (Option InputResponse)) :
    (machine.afterSteps inputs).HasRead ∨ (machine.afterSteps inputs).Stranded := by
  obtain reads | ⟨earlier, response, later, rfl, loses⟩ := kept.afterSteps inputs
  · exact .inl reads
  · exact .inr (loses.afterSteps later)

theorem Machine.afterSteps_concat (machine : Machine η) (inputs : List (Option InputResponse))
    (input : Option InputResponse) : machine.afterSteps (inputs ++ [input]) =
      finalState (Engine.step input (machine.afterSteps inputs)) :=
  List.foldl_append

end Steps

section Runs

variable [Host η] {fresh started : Machine η}

theorem Machine.hasRead_or_stranded (begun : Engine.start fresh = .ok () started)
    (inputs : List (Option InputResponse)) :
    (started.afterSteps inputs).HasRead ∨ (started.afterSteps inputs).Stranded :=
  (HasRead.of_running (Engine.begun_start begun).status).kept_or_stranded inputs

theorem Machine.status_ne_starting (begun : Engine.start fresh = .ok () started)
    (inputs : List (Option InputResponse)) : (started.afterSteps inputs).status ≠ .starting := by
  obtain kept | stranded := hasRead_or_stranded begun inputs
  · exact kept.begun
  · obtain ⟨request, reading⟩ := stranded.reading
    rw [reading]
    nofun

end Runs

/-- Over whole runs, whatever the input and whichever steps fail, a machine that waits for input has
the read that waits for it, and no response finds the read missing, unless some response ended a
read with a click that could not be noted. From then on the machine waits for good, and every
response fails. -/
theorem Machine.read_kept_unless_click_lost [Host η] {fresh started : Machine η}
    (begun : Engine.start fresh = .ok () started) (inputs : List (Option InputResponse)) :
    let reached := started.afterSteps inputs
    let lost := ∃ earlier response later, inputs = earlier ++ some response :: later ∧
      (started.afterSteps earlier).LosesClick response
    (¬ lost →
      (∀ request, reached.status = .reading request →
        ∃ pending, reached.pending = some pending ∧ pending.request = request) ∧
      ∀ response error after, Engine.step (some response) reached = .error error after →
        error ≠ .inputWithoutRead) ∧
    (lost →
      (∃ request, reached.status = .reading request) ∧ reached.pending = none ∧
      ∀ response, Engine.step (some response) reached = .error .inputWithoutRead reached) := by
  intro reached lost
  have kept : started.HasRead := .of_running (Engine.begun_start begun).status
  constructor
  · intro safe
    have reads : reached.HasRead := (kept.afterSteps inputs).resolve_right safe
    refine ⟨reads.read, fun response error after failed wanting => ?_⟩
    subst wanting
    cases Engine.fails_step reads.begun failed with
    | admitted admits => cases admits
    | unread given reading none =>
      obtain ⟨pending, stored, -⟩ := reads.read _ reading
      rw [none] at stored
      cases stored
  · rintro ⟨earlier, response, later, rfl, loses⟩
    have stranded : reached.Stranded := loses.afterSteps later
    exact ⟨stranded.reading, stranded.gone, fun response => stranded.step_eq (some response)⟩

def Machine.started? (image : Array UInt8) : Option (Machine MemoryStore) :=
  match Machine.load image {} ({} : MemoryStore) with
  | .error _ => none
  | .ok fresh =>
    match Engine.start fresh with
    | .ok _ started => some started
    | .error _ _ => none

theorem Machine.started?_eq_some {image : Array UInt8} {started : Machine MemoryStore}
    (begun : Machine.started? image = some started) :
    ∃ fresh, Machine.load image {} {} = .ok fresh ∧ Engine.start fresh = .ok () started := by
  unfold Machine.started? at begun
  split at begun
  next => cases begun
  next fresh loaded =>
    split at begun
    next other ran =>
      cases begun
      exact ⟨fresh, loaded, ran⟩
    next => cases begun

/-- A story of version 5 that reads a character. Its extension table has room for a click, but lies
in static memory. -/
def clickImage : Array UInt8 :=
  imageOfBytes 0x60 [(0x00, 5), (0x07, 0x40), (0x0f, 0x50), (0x37, 0x50), (0x40, 0xf6),
    (0x41, 0x7f), (0x42, 1), (0x44, 0xba), (0x51, 2)]

def clicked : InputResponse :=
  { values := [.mouseClick 3 4] }

theorem Machine.read_kept_unless_click_lost_clickImage :
    ∃ started, Machine.started? clickImage = some started ∧
      (let reached := started.afterSteps [none]
      ∃ request pending, reached.status = .reading request ∧ reached.pending = some pending ∧
        pending.request = request) ∧
      let reached := started.afterSteps [none, some clicked]
      reached.pending = none ∧
        ∀ response, Engine.step (some response) reached = .error .inputWithoutRead reached := by
  have ends : (Machine.started? clickImage).map (fun started =>
      let reached := started.afterSteps [none]
      (reached.status, reached.pending.map (fun pending => (pending.consume clicked.values).2),
        (reached.story.memory.noteClick 3 4).toOption.isNone)) =
      some (.reading (.character 0 0), some (some (.mouseClick 3 4)), true) := by
    decide +kernel
  obtain ⟨started, begun, reached⟩ := Option.map_eq_some_iff.mp ends
  obtain ⟨fresh, -, start⟩ := Machine.started?_eq_some begun
  injection reached with reading waits
  injection waits with waits refused
  obtain ⟨pending, stored, clicks⟩ := Option.map_eq_some_iff.mp waits
  refine ⟨started, begun, ?_, ?_⟩
  · have safe : ¬ ∃ earlier response later, [none] = earlier ++ some response :: later ∧
        (started.afterSteps earlier).LosesClick response := by
      rintro ⟨earlier, response, later, split, -⟩
      have member : some response ∈ [none] := split ▸ List.mem_append_right _ List.mem_cons_self
      simp at member
    obtain ⟨kept, -⟩ := (read_kept_unless_click_lost start [none]).1 safe
    obtain ⟨pending, stored, same⟩ := kept _ reading
    exact ⟨_, pending, reading, stored, same⟩
  · have lost : (started.afterSteps [none]).LosesClick clicked := by
      cases noted : (started.afterSteps [none]).story.memory.noteClick 3 4 with
      | ok memory =>
        rw [noted] at refused
        cases refused
      | error error => exact ⟨_, pending, 3, 4, error, reading, stored, clicks, noted⟩
    exact ((read_kept_unless_click_lost start [none, some clicked]).2
      ⟨[none], clicked, [], rfl, lost⟩).2

/-- A character after such a click finds no read, though the machine waits for one. -/
theorem Machine.character_refused_after_lost_click :
    ∃ started, Machine.started? clickImage = some started ∧
      let reached := started.afterSteps [none, some clicked]
      reached.status = .reading (.character 0 0) ∧ reached.pending = none ∧
        ∃ after, Engine.step (some { values := [.character 65] }) reached =
          .error .inputWithoutRead after := by
  have stuck : (Machine.started? clickImage).map (fun started =>
      let reached := started.afterSteps [none, some clicked]
      (reached.status, reached.pending.isNone,
        match Engine.step (some { values := [.character 65] }) reached with
        | .ok _ _ => none
        | .error error _ => some error)) =
      some (.reading (.character 0 0), true, some .inputWithoutRead) := by
    decide +kernel
  obtain ⟨started, begun, reached⟩ := Option.map_eq_some_iff.mp stuck
  injection reached with reading rest
  injection rest with gone refused
  refine ⟨started, begun, reading, Option.isNone_iff_eq_none.mp gone, ?_⟩
  split at refused
  next => cases refused
  next error after failed =>
    cases refused
    exact ⟨after, failed⟩

end StoryMachine
