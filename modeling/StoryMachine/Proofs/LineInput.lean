import StoryMachine.Proofs.PendingReads

/-! How a line is put together from responses. It does not matter how the values that the player
enters are spread over responses: a response that does not end the line changes nothing but the
line so far, and the one that does end it has the same effect as a single response with all the
values. A timed read calls its routine with the response that uses up its time, and not before.
Whether a read is timed or not, its clock can overflow. -/

namespace StoryMachine

variable {η : Type}

theorem Duration.ofNanoseconds?_eq_some_iff {count : Nat} {time : Duration} :
    ofNanoseconds? count = some time ↔ time.nanoseconds = count := by
  constructor
  · intro fits
    unfold ofNanoseconds? at fits
    split at fits
    next => cases fits; rfl
    next => cases fits
  · rintro rfl
    exact dif_pos time.bounded

/-- The line that values turn a line into, if none of them ends it. -/
def InputRequest.typed (request : InputRequest) (line : List Zscii) (values : List InputValue) :
    List Zscii :=
  values.foldl (fun line value => editLine request.maxLength line value.zscii) line

/-- None of the values of a response ends the input. -/
def InputRequest.LeftOpenBy (request : InputRequest) (response : InputResponse) : Prop :=
  ∀ value ∈ response.values, request.isTerminator value.zscii = false

instance (request : InputRequest) (response : InputResponse) :
    Decidable (request.LeftOpenBy response) :=
  inferInstanceAs (Decidable (∀ value ∈ response.values, _))

def InputResponse.allValues (responses : List InputResponse) : List InputValue :=
  responses.flatMap (·.values)

namespace PendingRead

def typing (read : PendingRead) (values : List InputValue) : PendingRead :=
  { read with input := read.request.typed read.input values }

/-- The time that a read has waited once it has been given some responses: the sum of what counts
of their times, unless that overflows. -/
def waited? (read : PendingRead) (responses : List InputResponse) : Option Duration :=
  Duration.ofNanoseconds? <|
    read.timer.accumulated.nanoseconds + (responses.map (·.counted.nanoseconds)).sum

/-- A read for a line after responses that do not end it, with the time that it has waited. -/
def extended (read : PendingRead) (responses : List InputResponse) (time : Duration) :
    PendingRead :=
  let line := read.request.typed read.input (InputResponse.allValues responses)
  { read with
    request := { read.request with
      preloaded := line
      redraw := responses.isEmpty && read.request.redraw }
    input := line
    timer := ⟨time⟩ }

/-- Two reads that a value edits or ends alike, and that put the same line in the same place. -/
structure SameLine (one other : PendingRead) : Prop extends SameRead one other where
  kind : other.request.kind = one.request.kind
  maxLength : other.request.maxLength = one.request.maxLength
  terminators : other.request.terminators = one.request.terminators
  input : other.input = one.input

theorem SameLine.isTerminator {one other : PendingRead} (same : one.SameLine other) (code : Zscii) :
    other.request.isTerminator code = one.request.isTerminator code := by
  unfold InputRequest.isTerminator
  rw [same.kind, same.terminators]

theorem SameLine.consume {one other : PendingRead} (same : one.SameLine other)
    (values : List InputValue) : (other.consume values).2 = (one.consume values).2 ∧
      (one.consume values).1.SameLine (other.consume values).1 := by
  induction values generalizing one other with
  | nil => exact ⟨rfl, same⟩
  | cons value rest ih =>
    rw [PendingRead.consume, PendingRead.consume, same.isTerminator]
    split
    next => exact ⟨rfl, same⟩
    next =>
      have edited : editLine other.request.maxLength other.input value.zscii =
          editLine one.request.maxLength one.input value.zscii := by
        rw [same.maxLength, same.input]
      exact ih ⟨⟨same.instruction, same.operands⟩, same.kind, same.maxLength, same.terminators,
        edited⟩

theorem consume_append (read : PendingRead) {front : List InputValue}
    (unended : ∀ value ∈ front, read.request.isTerminator value.zscii = false)
    (back : List InputValue) : read.consume (front ++ back) =
      (read.typing front).consume back := by
  induction front generalizing read with
  | nil => rfl
  | cons value rest ih =>
    obtain ⟨here, there⟩ := List.forall_mem_cons.mp unended
    rw [List.cons_append, consume, if_neg (by simp [here])]
    exact ih { read with input := editLine read.request.maxLength read.input value.zscii } there

theorem consume_leftOpen {read : PendingRead} {response : InputResponse}
    (unended : read.request.LeftOpenBy response) : read.consume response.values =
      (read.typing response.values, none) := by
  have appended := read.consume_append unended []
  rwa [List.append_nil] at appended

theorem exists_ending {read : PendingRead} {values : List InputValue}
    (ends : ¬ ∀ value ∈ values, read.request.isTerminator value.zscii = false) :
    ∃ value, (read.consume values).2 = some value := by
  induction values generalizing read with
  | nil => exact absurd (fun _ member => absurd member List.not_mem_nil) ends
  | cons value rest ih =>
    rw [consume]
    split
    next => exact ⟨value, rfl⟩
    next unended =>
      refine ih fun unended' => ends (List.forall_mem_cons.mpr ⟨?_, unended'⟩)
      simpa using unended

theorem waited?_nil (read : PendingRead) : read.waited? [] = some read.timer.accumulated :=
  Duration.ofNanoseconds?_eq_some_iff.mpr rfl

theorem waited?_cons {read : PendingRead} {response : InputResponse} {rest : List InputResponse}
    {time : Duration} (waited : read.waited? (response :: rest) = some time) :
    ∃ first, read.timer.accumulated.add? response.counted = some first ∧ first ≤ time ∧
      (read.extended [response] first).waited? rest = some time := by
  have total := Duration.ofNanoseconds?_eq_some_iff.mp waited
  rw [List.map_cons, List.sum_cons, ← Nat.add_assoc] at total
  have within := total ▸ Nat.le_add_right _ _
  exact ⟨⟨_, Nat.lt_of_le_of_lt within time.bounded⟩, Duration.ofNanoseconds?_eq_some_iff.mpr rfl,
    within, Duration.ofNanoseconds?_eq_some_iff.mpr total⟩

theorem waited?_concat {read : PendingRead} {early : List InputResponse} {time : Duration}
    (waited : read.waited? early = some time) (response : InputResponse) :
    read.waited? (early ++ [response]) = time.add? response.counted := by
  have total := Duration.ofNanoseconds?_eq_some_iff.mp waited
  simp only [waited?, Duration.add?, total, List.map_append, List.map_cons, List.map_nil,
    List.sum_append, List.sum_cons, List.sum_nil, Nat.add_zero, Nat.add_assoc]

theorem extended_nil {read : PendingRead} (shown : read.input = read.request.preloaded) :
    read.extended [] read.timer.accumulated = read := by
  obtain ⟨instruction, operands, ⟨kind, maxLength, preloaded⟩, input, timer⟩ := read
  change input = preloaded at shown
  subst shown
  rfl

theorem extended_extended (read : PendingRead) (response : InputResponse)
    (rest : List InputResponse) (first time : Duration) :
    (read.extended [response] first).extended rest time =
      read.extended (response :: rest) time := by
  simp only [extended, InputRequest.typed, InputResponse.allValues, List.flatMap_cons,
    List.flatMap_nil, List.append_nil, List.foldl_append, List.isEmpty_cons, Bool.false_and,
    Bool.and_false]

theorem sameLine_extended (read : PendingRead) (responses : List InputResponse)
    (time : Duration) :
    (read.typing (InputResponse.allValues responses)).SameLine (read.extended responses time) :=
  ⟨⟨rfl, rfl⟩, rfl, rfl, rfl, rfl⟩

theorem renew_eq_extended {read : PendingRead} (line : read.request.kind = .line)
    (response : InputResponse) (time : Duration) :
    PendingRead.renew { read.typing response.values with timer := ⟨time⟩ } =
      read.extended [response] time := by
  simp only [renew, typing, line, InputRequest.line, extended, InputResponse.allValues,
    List.flatMap_cons, List.flatMap_nil, List.append_nil, List.isEmpty_cons, Bool.false_and]

/-- After a time, the routine of a read is not called yet, if it has one. -/
def InTime (read : PendingRead) (time : Duration) : Prop :=
  ∀ limit, read.request.timeoutDuration? = some limit → ¬ limit ≤ time

end PendingRead

namespace InputTimer

variable {timer : InputTimer} {response : InputResponse} {time : Duration}

theorem tick_of_inTime {timeout : Option Duration}
    (counted : timer.accumulated.add? response.counted = some time)
    (inTime : ∀ limit, timeout = some limit → ¬ limit ≤ time) :
    timer.tick response timeout = some (false, ⟨time⟩) := by
  rw [tick, counted, Option.map_some]
  cases timeout with
  | none => rfl
  | some limit => simp only [if_neg (inTime limit rfl)]

theorem tick_of_late {limit : Duration}
    (counted : timer.accumulated.add? response.counted = some time) (late : limit ≤ time) :
    timer.tick response (some limit) = some (true, {}) := by
  rw [tick, counted, Option.map_some]
  simp only [if_pos late]

end InputTimer

namespace Engine

section Status

variable {machine after : Machine η}

theorem update_of_status {change : Update Unit}
    (updated : update change machine = .ok () after) (status : Status) :
    update change { machine with status } = .ok () { after with status } := by
  cases changed : change machine.story with
  | error error story =>
    simp only [update, changed] at updated
    cases updated
  | ok value story =>
    simp only [update, changed] at updated ⊢
    cases updated
    rfl

theorem noteClick_of_status {value : InputValue}
    (noted : noteClick value machine = .ok () after) (status : Status) :
    noteClick value { machine with status } = .ok () { after with status } := by
  cases value with
  | character | special =>
    cases noted
    rfl
  | mouseClick column row =>
    simp only [noteClick] at noted ⊢
    cases first : update (Update.modifyMemory (·.setExtension .mouseX column)) machine with
    | error error middle =>
      rw [bind_of_error first] at noted
      cases noted
    | ok _ middle =>
      rw [bind_of_ok first] at noted
      rw [bind_of_ok (update_of_status first status)]
      exact update_of_status noted status

end Status

variable [Host η] {machine : Machine η} {read : PendingRead} {response : InputResponse}

theorem takeInput_of_leftOpen (waits : machine.pending = some read)
    (unended : read.request.LeftOpenBy response) :
    takeInput response machine = passTime (read.typing response.values) response machine := by
  have consumed := PendingRead.consume_leftOpen unended
  rw [takeInput_of_unended waits (congrArg Prod.snd consumed), consumed]

theorem passTime_of_inTime {time : Duration}
    (counted : read.timer.accumulated.add? response.counted = some time)
    (inTime : read.InTime time) :
    let renewed := PendingRead.renew { read with timer := ⟨time⟩ }
    passTime read response machine =
      .ok () { machine with status := .reading renewed.request, pending := some renewed } := by
  rw [passTime, InputTimer.tick_of_inTime counted inTime]
  rfl

theorem passTime_of_late {time limit : Duration}
    (counted : read.timer.accumulated.add? response.counted = some time)
    (timed : read.request.timeoutDuration? = some limit) (late : limit ≤ time) :
    passTime read response machine =
      (call read.request.routine [] .interrupt read.instruction.address >>= advance)
        { machine with pending := some { read with timer := {} }, status := .running } := by
  rw [passTime, timed, InputTimer.tick_of_late counted late]
  rfl

theorem passTime_of_overflow (overflows : read.timer.accumulated.add? response.counted = none) :
    passTime read response machine = .error .clockOverflow machine := by
  rw [passTime, InputTimer.tick, overflows]
  rfl

/-- Completing a read depends on its line, not on how the request for it looks by now. -/
theorem finishRead_of_sameLine {other : PendingRead} (same : read.SameLine other)
    (terminator : Zscii) :
    (finishRead other terminator : Engine η Unit) = finishRead read terminator := by
  have delivered : (deliver other terminator : Engine η Continuation) = deliver read terminator := by
    simp only [deliver, same.kind, same.instruction, same.operands, same.input]
  simp only [finishRead, delivered, same.instruction]

/-- A read ends alike whatever the machine was waiting for. -/
theorem finish_of_status {other after : Machine η} {value : InputValue}
    (finished : (noteClick value >>= fun _ => finishRead read value.zscii) machine = .ok () after)
    (same : other = { machine with status := other.status }) :
    (noteClick value >>= fun _ => finishRead read value.zscii) other = .ok () after := by
  rw [same]
  cases noted : noteClick value machine with
  | error error middle =>
    rw [bind_of_error noted] at finished
    cases finished
  | ok _ middle =>
    rw [bind_of_ok noted] at finished
    rw [bind_of_ok (noteClick_of_status noted other.status)]
    exact finished

end Engine

/-- What calling the routine of a timed read comes to: it is entered, unless there is none where it
should be. -/
inductive Machine.CallsRoutine (machine : Machine η) (read : PendingRead) :
    EStateM.Result Error (Machine η) Unit → Prop where
  | entered {start : Nat} {locals : List UInt16}
      (found : machine.story.routine read.request.routine = .ok (start, locals)) :
      CallsRoutine machine read (.ok () { machine with
        pending := some read
        status := .running
        stack := machine.stack.push
          { kind := .interrupt, address := read.request.routine, pc := start,
            locals := passArguments [] locals, argumentCount := 0,
            returnAddress := read.instruction.address } })
  | refused {error : Error} (missing : machine.story.routine read.request.routine = .error error) :
      CallsRoutine machine read
        (.error error { machine with pending := some read, status := .running })

/-- A response that uses up the time of a read calls its routine. -/
theorem Engine.callsRoutine_of_late [Host η] (machine : Machine η) (read : PendingRead)
    {response : InputResponse} {time limit : Duration}
    (counted : read.timer.accumulated.add? response.counted = some time)
    (timed : read.request.timeoutDuration? = some limit) (late : limit ≤ time) :
    machine.CallsRoutine { read with timer := {} } (passTime read response machine) := by
  rw [passTime_of_late counted timed late]
  obtain ⟨start, locals, found, entered⟩ | ⟨error, missing, failed⟩ :=
    call_interrupt (InputRequest.routine_of_timed timed) read.instruction.address
      { machine with pending := some { read with timer := {} }, status := .running }
  · rw [entered]
    exact .entered found
  · rw [failed]
    exact .refused missing

def Machine.awaiting (machine : Machine η) (read : PendingRead) : Machine η :=
  { machine with status := .reading read.request, pending := some read }

theorem Machine.CallsRoutine.of_awaiting {machine : Machine η} {read shown : PendingRead}
    {result : EStateM.Result Error (Machine η) Unit}
    (calls : (machine.awaiting shown).CallsRoutine read result) :
    machine.CallsRoutine read result := by
  cases calls with
  | entered found => exact .entered found
  | refused missing => exact .refused missing

structure Machine.AwaitsLine (machine : Machine η) (read : PendingRead) : Prop where
  pending : machine.pending = some read
  status : machine.status = .reading read.request
  line : read.request.kind = .line
  shown : read.input = read.request.preloaded

namespace Machine.AwaitsLine

variable {machine : Machine η} {read : PendingRead}

theorem awaiting_eq (awaits : machine.AwaitsLine read) : machine.awaiting read = machine := by
  rw [awaiting, ← awaits.status, ← awaits.pending]

theorem extended (awaits : machine.AwaitsLine read) (responses : List InputResponse)
    (time : Duration) :
    (machine.awaiting (read.extended responses time)).AwaitsLine (read.extended responses time) :=
  ⟨rfl, rfl, awaits.line, rfl⟩

variable [Host η]

theorem step_of_leftOpen (awaits : machine.AwaitsLine read) {response : InputResponse}
    (unended : read.request.LeftOpenBy response) : Engine.step (some response) machine =
      Engine.passTime (read.typing response.values) response machine := by
  rw [Engine.step_of_response awaits.status, Engine.takeInput_of_leftOpen awaits.pending unended]

theorem step_of_inTime (awaits : machine.AwaitsLine read) {response : InputResponse}
    {time : Duration} (unended : read.request.LeftOpenBy response)
    (counted : read.timer.accumulated.add? response.counted = some time)
    (inTime : read.InTime time) : Engine.step (some response) machine =
      .ok () (machine.awaiting (read.extended [response] time)) := by
  rw [awaits.step_of_leftOpen unended, ← PendingRead.renew_eq_extended awaits.line]
  exact Engine.passTime_of_inTime counted inTime

theorem waits (awaits : machine.AwaitsLine read) {responses : List InputResponse}
    {time : Duration} (unended : ∀ response ∈ responses, read.request.LeftOpenBy response)
    (waited : read.waited? responses = some time) (inTime : read.InTime time) :
    responses.forM (fun response => Engine.step (some response)) machine =
      .ok () (machine.awaiting (read.extended responses time)) := by
  induction responses generalizing machine read with
  | nil =>
    cases read.waited?_nil.symm.trans waited
    rw [PendingRead.extended_nil awaits.shown, awaits.awaiting_eq]
    rfl
  | cons response rest ih =>
    obtain ⟨here, there⟩ := List.forall_mem_cons.mp unended
    obtain ⟨first, counted, before, later⟩ := PendingRead.waited?_cons waited
    have early : read.InTime first := fun limit timed reached =>
      inTime limit timed (Nat.le_trans reached before)
    have followed := ih (awaits.extended [response] first) there later inTime
    rw [PendingRead.extended_extended] at followed
    exact (bind_of_ok (awaits.step_of_inTime here counted early)).trans followed

/-- Whether the values of a line come together or one after another, the line ends alike. -/
theorem joined (awaits : machine.AwaitsLine read) {early : List InputResponse}
    (unended : ∀ response ∈ early, read.request.LeftOpenBy response) {last whole : InputResponse}
    (ends : ¬ read.request.LeftOpenBy last)
    (values : whole.values = InputResponse.allValues early ++ last.values) (time : Duration)
    (after : Machine η) :
    Engine.step (some last) (machine.awaiting (read.extended early time)) = .ok () after ↔
      Engine.step (some whole) machine = .ok () after := by
  have consumed : read.consume whole.values =
      (read.typing (InputResponse.allValues early)).consume last.values := by
    rw [values]
    refine read.consume_append (fun value member => ?_) last.values
    obtain ⟨response, early, inside⟩ := List.mem_flatMap.mp member
    exact unended response early value inside
  have same := read.sameLine_extended early time
  have asked : (read.typing (InputResponse.allValues early)).request = read.request := rfl
  generalize read.typing (InputResponse.allValues early) = line at consumed same asked
  obtain ⟨value, ending⟩ : ∃ value, (line.consume last.values).2 = some value := by
    rw [← asked] at ends
    exact PendingRead.exists_ending ends
  obtain ⟨alike, finished⟩ := same.consume last.values
  have stored := (awaits.extended early time).pending
  have split := Engine.takeInput_of_ended stored (alike.trans ending)
  rw [Engine.finishRead_of_sameLine finished] at split
  have together := Engine.takeInput_of_ended awaits.pending (consumed ▸ ending)
  rw [consumed] at together
  rw [Engine.step_of_response rfl, Engine.step_of_response awaits.status, split, together]
  exact ⟨fun ran => Engine.finish_of_status ran rfl, fun ran => Engine.finish_of_status ran rfl⟩

theorem called (awaits : machine.AwaitsLine read) {early : List InputResponse} {time : Duration}
    (waited : read.waited? early = some time) {response : InputResponse} {limit total : Duration}
    (unended : read.request.LeftOpenBy response)
    (timed : read.request.timeoutDuration? = some limit)
    (spent : read.waited? (early ++ [response]) = some total) (late : limit ≤ total) :
    machine.CallsRoutine { (read.extended early time).typing response.values with timer := {} }
      (Engine.step (some response) (machine.awaiting (read.extended early time))) := by
  rw [PendingRead.waited?_concat waited] at spent
  rw [(awaits.extended early time).step_of_leftOpen unended]
  exact (Engine.callsRoutine_of_late (machine.awaiting (read.extended early time))
    ((read.extended early time).typing response.values) spent timed late).of_awaiting

theorem overflows (awaits : machine.AwaitsLine read) {early : List InputResponse}
    {time : Duration} (waited : read.waited? early = some time) {response : InputResponse}
    (unended : read.request.LeftOpenBy response)
    (overflows : read.waited? (early ++ [response]) = none) :
    Engine.step (some response) (machine.awaiting (read.extended early time)) =
      .error .clockOverflow (machine.awaiting (read.extended early time)) := by
  rw [PendingRead.waited?_concat waited] at overflows
  rw [(awaits.extended early time).step_of_leftOpen unended]
  exact Engine.passTime_of_overflow overflows

end Machine.AwaitsLine

/-- What responses to a read for a line come to that neither end it nor use up its time: nothing
but the line changes, and the time that the read has waited. -/
structure Machine.TakesLine [Host η] (machine : Machine η) (read : PendingRead)
    (early : List InputResponse) (time : Duration) : Prop where
  waits : early.forM (fun response => Engine.step (some response)) machine =
    .ok () (machine.awaiting (read.extended early time))
  joined : ∀ last whole : InputResponse, ¬ read.request.LeftOpenBy last →
    whole.values = InputResponse.allValues early ++ last.values → ∀ after,
      Engine.step (some last) (machine.awaiting (read.extended early time)) = .ok () after ↔
        Engine.step (some whole) machine = .ok () after
  called : ∀ (response : InputResponse) (limit total : Duration),
    read.request.LeftOpenBy response → read.request.timeoutDuration? = some limit →
    read.waited? (early ++ [response]) = some total → limit ≤ total →
      machine.CallsRoutine { (read.extended early time).typing response.values with timer := {} }
        (Engine.step (some response) (machine.awaiting (read.extended early time)))
  overflows : ∀ response : InputResponse, read.request.LeftOpenBy response →
    read.waited? (early ++ [response]) = none →
      Engine.step (some response) (machine.awaiting (read.extended early time)) =
        .error .clockOverflow (machine.awaiting (read.extended early time))

/-- Whatever the input so far, a machine that waits for a line takes it in any pieces alike: until a
value ends the line, only the line changes, which the request shows; the piece with that value has
the effect that all the pieces would have at once; and without such a value, the routine of a timed
read is called by the first piece that uses up its time. There are two exceptions. A piece that
leaves the line open fails if the time of all pieces so far overflows, even if the read is not
timed. And once some response ended a read with a click that could not be noted, every response
fails. -/
theorem Machine.line_independent_of_delivery [Host η] {fresh started : Machine η}
    (begun : Engine.start fresh = .ok () started) (inputs : List (Option InputResponse))
    {request : InputRequest} (reading : (started.afterSteps inputs).status = .reading request)
    (line : request.kind = .line) :
    let machine := started.afterSteps inputs
    let lost := ∃ earlier response later, inputs = earlier ++ some response :: later ∧
      (started.afterSteps earlier).LosesClick response
    (¬ lost → ∃ read, machine.pending = some read ∧ read.request = request ∧
      read.input = request.preloaded ∧
      ∀ (early : List InputResponse) (time : Duration),
        (∀ response ∈ early, request.LeftOpenBy response) → read.waited? early = some time →
        read.InTime time → machine.TakesLine read early time) ∧
    (lost → ∀ response, Engine.step (some response) machine =
      .error .inputWithoutRead machine) := by
  intro machine lost
  have kept : started.HasRead := .of_running (Engine.begun_start begun).status
  constructor
  · intro safe
    have reads : machine.HasRead := (kept.afterSteps inputs).resolve_right safe
    obtain ⟨read, stored, rfl⟩ := reads.read request reading
    have shown := reads.shown read.request read reading stored line
    have awaits : machine.AwaitsLine read := ⟨stored, reading, line, shown⟩
    refine ⟨read, stored, rfl, shown, fun early time unended waited inTime => ?_⟩
    exact {
      waits := awaits.waits unended waited inTime
      joined := fun last whole ends values => awaits.joined unended ends values time
      called := fun response limit total => awaits.called waited
      overflows := fun response => awaits.overflows waited }
  · rintro ⟨earlier, response, later, rfl, loses⟩ other
    exact (loses.afterSteps later).step_eq (some other)

/-- A story of version 5 that reads a line of up to 8 characters, with a routine to call after a
second that stores 7 in the first global variable and returns 1. A click ends the line as well, but
the table where it should be noted lies in static memory. -/
def timedImage : Array UInt8 :=
  imageOfBytes 0x70 [(0x00, 5), (0x07, 0x40), (0x0d, 0x4e), (0x0f, 0x5c), (0x2f, 0x68),
    (0x37, 0x60), (0x40, 0xe4), (0x41, 0x55), (0x42, 0x50), (0x44, 10), (0x45, 0x12), (0x47, 0xba),
    (0x49, 0x0d), (0x4a, 0x10), (0x4b, 7), (0x4c, 0xb0), (0x50, 8), (0x61, 2), (0x68, 0xfe)]

def timedRequest : InputRequest :=
  .line 8 [] [254] 10 0x48

def earlyLetter : InputResponse :=
  { values := [.character 72], elapsed := .ofMilliseconds 300 }

def longestWait : InputResponse :=
  { elapsed := ⟨18446744073709551615999999999, by decide⟩ }

theorem Machine.line_independent_of_delivery_timedImage :
    ∃ started, Machine.started? timedImage = some started ∧
      (let machine := started.afterSteps [none]
      machine.status = .reading timedRequest ∧
        ∃ read time, machine.pending = some read ∧ read.waited? [earlyLetter] = some time ∧
          read.InTime time ∧ (read.extended [earlyLetter] time).request.preloaded = [104] ∧
          read.waited? [earlyLetter, longestWait] = none ∧
          machine.TakesLine read [earlyLetter] time) ∧
      let machine := started.afterSteps [none, some clicked]
      machine.status = .reading timedRequest ∧
        ∀ response, Engine.step (some response) machine = .error .inputWithoutRead machine := by
  have waits : (Machine.started? timedImage).map (fun started =>
      let machine := started.afterSteps [none]
      (machine.status, machine.pending.map fun read => (read.timer.accumulated,
        (read.extended [earlyLetter] .zero).request.preloaded,
        (read.consume clicked.values).2))) =
      some (.reading timedRequest, some (.zero, [104], some (.mouseClick 3 4))) := by
    decide +kernel
  have loses : (Machine.started? timedImage).map (fun started =>
      (((started.afterSteps [none]).story.memory.noteClick 3 4).toOption.isNone,
        (started.afterSteps [none, some clicked]).status)) =
      some (true, .reading timedRequest) := by
    decide +kernel
  obtain ⟨started, begun, reached⟩ := Option.map_eq_some_iff.mp waits
  obtain ⟨fresh, -, start⟩ := Machine.started?_eq_some begun
  rw [begun] at loses
  injection reached with reading stored
  injection loses with loses
  injection loses with refused waiting
  obtain ⟨read, stored, same⟩ := Option.map_eq_some_iff.mp stored
  injection same with timer same
  injection same with edited clicks
  have safe : ¬ ∃ earlier response later, [none] = earlier ++ some response :: later ∧
      (started.afterSteps earlier).LosesClick response := by
    rintro ⟨earlier, response, later, split, -⟩
    have member : some response ∈ [none] := split ▸ List.mem_append_right _ List.mem_cons_self
    simp at member
  have lost : (started.afterSteps [none]).LosesClick clicked := by
    cases noted : (started.afterSteps [none]).story.memory.noteClick 3 4 with
    | ok memory =>
      rw [noted] at refused
      cases refused
    | error error => exact ⟨_, read, 3, 4, error, reading, stored, clicks, noted⟩
  refine ⟨started, begun, ⟨reading, read, .ofMilliseconds 300, stored, ?_⟩, waiting, ?_⟩
  · obtain ⟨other, kept, asked, -, takes⟩ :=
      (line_independent_of_delivery start [none] reading rfl).1 safe
    cases stored.symm.trans kept
    have waited : read.waited? [earlyLetter] = some (.ofMilliseconds 300) := by
      rw [PendingRead.waited?, timer]
      decide
    have overflows : read.waited? [earlyLetter, longestWait] = none := by
      rw [PendingRead.waited?, timer]
      decide
    have inTime : read.InTime (.ofMilliseconds 300) := by
      intro limit timed
      rw [asked] at timed
      cases timed
      decide
    exact ⟨waited, inTime, edited, overflows, takes _ _ (by decide) waited inTime⟩
  · exact (line_independent_of_delivery start [none, some clicked] waiting rfl).2
      ⟨[none], clicked, [], rfl, lost⟩

/-- After such a click, a letter that leaves the line open is not taken, though it is in time. -/
theorem Machine.letter_refused_after_lost_click :
    timedRequest.LeftOpenBy earlyLetter ∧ earlyLetter.counted.nanoseconds < 1000000000 ∧
    ∃ started, Machine.started? timedImage = some started ∧
      let machine := started.afterSteps [none, some clicked]
      machine.status = .reading timedRequest ∧
        ∃ after, Engine.step (some earlyLetter) machine = .error .inputWithoutRead after ∧
          after.status = .reading timedRequest := by
  have stuck : (Machine.started? timedImage).map (fun started =>
      let machine := started.afterSteps [none, some clicked]
      let stepped := Engine.step (some earlyLetter) machine
      (machine.status, failure? stepped, (finalState stepped).status)) =
      some (.reading timedRequest, some .inputWithoutRead, .reading timedRequest) := by
    decide +kernel
  obtain ⟨started, begun, reached⟩ := Option.map_eq_some_iff.mp stuck
  injection reached with reading rest
  injection rest with failed waiting
  obtain ⟨after, refused⟩ := exists_of_failure? failed
  rw [refused] at waiting
  exact ⟨by decide, by decide, started, begun, reading, after, refused, waiting⟩

end StoryMachine
