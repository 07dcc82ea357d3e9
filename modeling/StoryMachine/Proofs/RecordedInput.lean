import StoryMachine.Proofs.Interrupts

/-! A game can be played again from a record of its input. The responses that a recorder has noted,
the last and empty one among them, are all that a second run needs to go the same way, and it uses
up all of them. -/

namespace StoryMachine

variable {η ι : Type} [Host η]

/-- A point of a run where it asks for input: the machine there, and what it asks for. -/
structure Inquiry (η : Type) where
  machine : Machine η
  request : InputRequest

/-- How a run comes to its end: in so many steps, and with these inquiries on the way. -/
inductive Machine.Plays [InputSource ι] : Machine η → ι → Option InputResponse → (steps : Nat) →
    List (Inquiry η) → Run η ι → Prop where
  | failed {machine after : Machine η} {source : ι} {input : Option InputResponse} {error : Error}
      (step : Engine.step input machine = .error error after) :
      Plays machine source input 1 [] ⟨.error error, after, source⟩
  | halted {machine after : Machine η} {source : ι} {input : Option InputResponse}
      (step : Engine.step input machine = .ok () after) (halted : after.status = .halted) :
      Plays machine source input 1 [] ⟨.ok (), after, source⟩
  | ranDry {machine after : Machine η} {source rest : ι} {input : Option InputResponse}
      {request : InputRequest} {response : InputResponse}
      (step : Engine.step input machine = .ok () after) (reading : after.status = .reading request)
      (read : InputSource.read request source = (response, rest))
      (empty : response.isEmpty = true) :
      Plays machine source input 1 [⟨after, request⟩] ⟨.ok (), after, rest⟩
  | answered {machine after : Machine η} {source rest : ι} {input : Option InputResponse}
      {request : InputRequest} {response : InputResponse} {steps : Nat}
      {inquiries : List (Inquiry η)} {run : Run η ι}
      (step : Engine.step input machine = .ok () after) (reading : after.status = .reading request)
      (read : InputSource.read request source = (response, rest))
      (given : response.isEmpty = false)
      (later : Plays after rest (some response) steps inquiries run) :
      Plays machine source input (steps + 1) (⟨after, request⟩ :: inquiries) run
  | went {machine after : Machine η} {source : ι} {input : Option InputResponse} {steps : Nat}
      {inquiries : List (Inquiry η)} {run : Run η ι}
      (step : Engine.step input machine = .ok () after)
      (going : after.status = .starting ∨ after.status = .running)
      (later : Plays after source none steps inquiries run) :
      Plays machine source input (steps + 1) inquiries run

/-- A recorder adds what it answers to its log. -/
theorem Recorder.log_of_read [InputSource ι] {recorder after : Recorder ι} {request : InputRequest}
    {response : InputResponse} (read : InputSource.read request recorder = (response, after)) :
    after.log.responses = recorder.log.responses ++ [response] := by
  cases read
  rfl

namespace Machine

section Runs

variable [InputSource ι] {machine : Machine η} {source : ι} {input : Option InputResponse}
  {run : Run η ι}

theorem plays_of_runFrom {limit : Nat} (ended : machine.runFrom source input limit = some run) :
    ∃ steps inquiries, steps ≤ limit ∧ Plays machine source input steps inquiries run := by
  induction limit generalizing machine source input with
  | zero => cases ended
  | succ limit ih =>
    rw [runFrom] at ended
    split at ended
    next error after step =>
      cases ended
      exact ⟨1, [], Nat.le_add_left 1 limit, .failed step⟩
    next after step =>
      split at ended
      next halted =>
        cases ended
        exact ⟨1, [], Nat.le_add_left 1 limit, .halted step halted⟩
      next request reading =>
        dsimp only at ended
        split at ended
        next empty =>
          cases ended
          exact ⟨1, _, Nat.le_add_left 1 limit, .ranDry step reading rfl empty⟩
        next given =>
          obtain ⟨steps, inquiries, within, later⟩ := ih ended
          exact ⟨steps + 1, _, Nat.succ_le_succ within,
            .answered step reading rfl (Bool.eq_false_iff.mpr given) later⟩
      next starting =>
        obtain ⟨steps, inquiries, within, later⟩ := ih ended
        exact ⟨steps + 1, inquiries, Nat.succ_le_succ within, .went step (.inl starting) later⟩
      next running =>
        obtain ⟨steps, inquiries, within, later⟩ := ih ended
        exact ⟨steps + 1, inquiries, Nat.succ_le_succ within, .went step (.inr running) later⟩

theorem Plays.runFrom {steps limit : Nat} {inquiries : List (Inquiry η)}
    (plays : Plays machine source input steps inquiries run) (within : steps ≤ limit) :
    machine.runFrom source input limit = some run := by
  induction plays generalizing limit with
  | failed step =>
    obtain ⟨limit, rfl⟩ := Nat.exists_eq_add_of_le' within
    simp only [Machine.runFrom, step]
  | halted step halted =>
    obtain ⟨limit, rfl⟩ := Nat.exists_eq_add_of_le' within
    simp only [Machine.runFrom, step, halted]
  | ranDry step reading read empty =>
    obtain ⟨limit, rfl⟩ := Nat.exists_eq_add_of_le' within
    simp only [Machine.runFrom, step, reading, read, empty, if_true]
  | answered step reading read given later ih =>
    obtain ⟨limit, rfl⟩ := Nat.exists_eq_add_of_le' (Nat.le_trans (Nat.le_add_left 1 _) within)
    simp only [Machine.runFrom, step, reading, read, given, Bool.false_eq_true, if_false]
    exact ih (Nat.le_of_succ_le_succ within)
  | went step going later ih =>
    obtain ⟨limit, rfl⟩ := Nat.exists_eq_add_of_le' (Nat.le_trans (Nat.le_add_left 1 _) within)
    obtain starting | running := going
    · simp only [Machine.runFrom, step, starting]
      exact ih (Nat.le_of_succ_le_succ within)
    · simp only [Machine.runFrom, step, running]
      exact ih (Nat.le_of_succ_le_succ within)

end Runs

/-- What a recorder has noted on the way leads through the same run, whatever comes after it in the
log, and is used up there. -/
theorem Plays.replay [InputSource ι] {machine : Machine η} {recorder : Recorder ι}
    {input : Option InputResponse} {steps : Nat} {inquiries : List (Inquiry η)}
    {run : Run η (Recorder ι)} (plays : Plays machine recorder input steps inquiries run) :
    ∃ noted, run.source.log.responses = recorder.log.responses ++ noted ∧
      noted.length = inquiries.length ∧
      ∀ rest, Plays machine (⟨noted ++ rest⟩ : InputLog) input steps inquiries
        ⟨run.result, run.machine, ⟨rest⟩⟩ := by
  induction plays with
  | failed step => exact ⟨[], (List.append_nil _).symm, rfl, fun _ => .failed step⟩
  | halted step halted => exact ⟨[], (List.append_nil _).symm, rfl, fun _ => .halted step halted⟩
  | @ranDry _ _ _ _ _ _ response step reading read empty =>
    exact ⟨[response], Recorder.log_of_read read, rfl, fun _ => .ranDry step reading rfl empty⟩
  | @answered _ _ _ _ _ _ response _ _ _ step reading read given later ih =>
    obtain ⟨noted, log, count, replays⟩ := ih
    refine ⟨response :: noted, ?_, congrArg Nat.succ count, fun rest => ?_⟩
    · rw [log, Recorder.log_of_read read]
      exact (List.append_cons _ response noted).symm
    · exact .answered step reading rfl given (replays rest)
  | went step going later ih =>
    obtain ⟨noted, log, count, replays⟩ := ih
    exact ⟨noted, log, count, fun rest => .went step going (replays rest)⟩

/-- Every run with a recorder that ends, be it well or in an error, goes the same way once more with
the log of the recorder as its source. It takes as many steps, asks for the same input in the same
states, ends in the same result and the same machine, and leaves nothing in the log. -/
theorem recording_replays_game [InputSource ι] {machine : Machine η} {source : ι} {limit : Nat}
    {run : Run η (Recorder ι)} (ended : machine.run ({ source } : Recorder ι) limit = some run) :
    machine.run run.source.log limit = some ⟨run.result, run.machine, {}⟩ ∧
      ∃ steps inquiries, Plays machine ({ source } : Recorder ι) none steps inquiries run ∧
        Plays machine run.source.log none steps inquiries ⟨run.result, run.machine, {}⟩ ∧
        run.source.log.responses.length = inquiries.length := by
  obtain ⟨steps, inquiries, within, plays⟩ := plays_of_runFrom ended
  obtain ⟨noted, log, count, replays⟩ := plays.replay
  have whole : run.source.log = ⟨noted ++ []⟩ := by
    rw [List.append_nil]
    exact congrArg InputLog.mk log
  rw [whole]
  have again := replays []
  refine ⟨again.runFrom within, steps, inquiries, plays, again, ?_⟩
  rw [List.append_nil]
  exact count

end Machine

/-- A story of version 5 that reads a character, with a routine to call after a tenth of a second
that lets it go on reading, and then another one. -/
def patientImage : Array UInt8 :=
  imageOfBytes 0x60 [(0x00, 5), (0x07, 0x40), (0x0f, 0x58), (0x40, 0xf6), (0x41, 0x57), (0x42, 1),
    (0x43, 1), (0x44, 0x14), (0x46, 0xf6), (0x47, 0x7f), (0x48, 1), (0x4a, 0xba), (0x51, 0xb1)]

theorem Machine.recording_replays_game_patientImage :
    ∃ fresh run, Machine.load patientImage {} ({} : MemoryStore) = .ok fresh ∧
      fresh.run ({ source := ⟨[timePassed, typedLetter]⟩ } : Recorder InputLog) 10 = some run ∧
      run.source.log = ⟨[timePassed, typedLetter, {}]⟩ ∧
      fresh.run run.source.log 10 = some ⟨run.result, run.machine, {}⟩ ∧
      ∃ steps inquiries, inquiries.length = 3 ∧
        Plays fresh run.source.log none steps inquiries ⟨run.result, run.machine, {}⟩ := by
  have facts : (Machine.load patientImage {} ({} : MemoryStore)).toOption.bind (fun fresh =>
      (fresh.run ({ source := ⟨[timePassed, typedLetter]⟩ } : Recorder InputLog) 10).map
        (·.source.log)) = some ⟨[timePassed, typedLetter, {}]⟩ := by
    decide +kernel
  cases loaded : Machine.load patientImage {} ({} : MemoryStore) with
  | error error =>
    rw [loaded] at facts
    cases facts
  | ok fresh =>
    rw [loaded] at facts
    obtain ⟨run, ended, log⟩ := Option.map_eq_some_iff.mp facts
    obtain ⟨again, steps, inquiries, -, replays, count⟩ := recording_replays_game ended
    refine ⟨fresh, run, rfl, ended, log, again, steps, inquiries, ?_, replays⟩
    rw [← count, log]
    rfl

end StoryMachine
