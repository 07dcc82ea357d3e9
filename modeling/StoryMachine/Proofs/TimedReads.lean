import StoryMachine.Proofs.Interrupts
import StoryMachine.Proofs.LineInput

/-! A timed read survives its interrupt routine. Whatever the routine does, short of going back to a
snapshot, the frames that it interrupted and the line so far are there when it returns. Then the
read goes on waiting, or ends with that line, as the routine says. -/

namespace StoryMachine

variable {η : Type}

namespace CallStack

/-- No interrupt routine is under way with more than so many frames outside of it. -/
def InterruptsWithin (stack : CallStack) (depth : Nat) : Prop :=
  ∀ inner frame outer, stack.frames = inner ++ frame :: outer → frame.kind = .interrupt →
    outer.length ≤ depth

theorem InterruptsWithin.of_outlives {before after : CallStack} {depth : Nat}
    (within : before.InterruptsWithin depth) (outlives : before.Outlives after) :
    after.InterruptsWithin depth := by
  intro inner frame outer frames interrupt
  obtain ⟨inner, frame, frames, interrupt⟩ := outlives inner frame outer frames interrupt
  exact within inner frame outer frames interrupt

/-- No routine that interrupts the innermost frame has more frames outside of it than there are. -/
theorem interruptsWithin_push (stack : CallStack) (frame : Frame) :
    (stack.push frame).InterruptsWithin stack.depth := by
  intro inner other outer frames interrupt
  have length : (frame :: stack.frames).length = (inner ++ other :: outer).length :=
    congrArg List.length frames
  simp only [List.length_cons, List.length_append] at length
  simp only [depth]
  omega

end CallStack

section Steps

variable [Host η] {machine : Machine η}

/-- A step leaves the frames alone that it does not come back to. -/
theorem Machine.StackAfter.suffix {stack : CallStack} (after : machine.StackAfter stack)
    {outer : List Frame} (outside : outer <:+ machine.stack.frames)
    (deep : outer.length < machine.stack.depth) (deeper : outer.length < stack.depth) :
    outer <:+ stack.frames := by
  have shared {left right kept : List Frame} (here : machine.stack.frames = left ++ kept)
      (there : stack.frames = right ++ kept) (long : outer.length ≤ kept.length) :
      outer <:+ stack.frames := by
    have kept' : outer <:+ kept :=
      List.suffix_of_suffix_length_le outside ⟨left, here.symm⟩ long
    exact kept'.trans ⟨right, there.symm⟩
  cases after with
  | stayed same =>
    generalize machine.stack = before at *
    cases same with
    | same => exact outside
    | changed old new rest =>
      exact shared List.singleton_append.symm List.singleton_append.symm (Nat.le_of_lt_succ deep)
  | @entered address popped arguments caller callee rest calls frames activates =>
    have here : machine.stack.frames = [caller] ++ rest := frames
    have there : CallStack.frames ⟨callee :: caller.popped popped :: rest⟩ =
        [callee, caller.popped popped] ++ rest := rfl
    rw [CallStack.depth, frames, List.length_cons] at deep
    exact shared here there (Nat.le_of_lt_succ deep)
  | ended => exact absurd deeper (Nat.not_lt_zero _)
  | @returned left rest frame old resumed frames only =>
    have here : machine.stack.frames = (left ++ [frame, old]) ++ rest := by simp [frames]
    have there : CallStack.frames ⟨resumed :: rest⟩ = [resumed] ++ rest := rfl
    exact shared here there (Nat.le_of_lt_succ deeper)

theorem Returned.pending_eq {frame : Frame} {value : UInt16} {before : Machine η}
    {result : EStateM.Result Error (Machine η) Continuation}
    (returned : Returned frame value before result) :
    (finalState result).pending = before.pending := by
  cases returned with
  | last | dropped | resumed => rfl
  | @stored store after active kind written =>
    have quiet := Engine.quiet_writeVariable store.target.toNat value before
    rw [written] at quiet
    exact quiet.pending
  | @unstored store error after active kind failed =>
    have quiet := Engine.quiet_writeVariable store.target.toNat value before
    rw [failed] at quiet
    exact quiet.pending

def Waits : EStateM.Result Error (Machine η) Continuation → Prop
  | .ok (.await _) _ => True
  | _ => False

/-- An instruction that does not wait for input leaves the read that is pending. -/
theorem Onward.pending_eq {instruction : Instruction} {before : Machine η}
    {result : EStateM.Result Error (Machine η) Continuation}
    (onward : Onward instruction before result)
    (proceeds : ¬ Waits result) : (finalState result).pending = before.pending := by
  cases onward with
  | settled quiet finished =>
    cases finished with
    | went later | failed later | stopped later => exact later.pending.trans quiet.pending
    | waits later pending => exact absurd trivial proceeds
    | returns later frames returned =>
      exact (returned.pending_eq.trans later.pending).trans quiet.pending
  | called means called =>
    cases called with
    | unevaluated quiet => exact quiet.pending
    | @evaluated required operands middle _ ran entered =>
      have quiet := Engine.quiet_evaluate instruction required before
      rw [ran] at quiet
      cases entered with
      | skipped later | failed later => exact later.pending.trans quiet.pending
      | pushed => exact quiet.pending

theorem Onward.active_of_resume {instruction : Instruction} {before after : Machine η}
    {address : Nat} {value : UInt16}
    (onward : Onward instruction before (.ok (.resume address value) after)) :
    after.stack.frames ≠ [] := by
  cases onward with
  | settled quiet finished =>
    cases finished with
    | returns later frames returned =>
      cases returned with
      | resumed active => simpa [CallStack.isEmpty] using active
  | called means called =>
    cases called with
    | evaluated ran entered => cases entered

theorem Completed.depth_eq {pending : PendingRead} {before : Machine η}
    {result : EStateM.Result Error (Machine η) Unit} (completed : Completed pending before result) :
    (finalState result).stack.depth = before.stack.depth := by
  cases completed with
  | stopped quiet => exact quiet.stack.sameBelow.depth_eq
  | went quiet =>
    exact (Engine.sameBelow_setPc _ _).depth_eq.trans quiet.stack.sameBelow.depth_eq

theorem Resumed.depth_eq {before : Machine η} {result : EStateM.Result Error (Machine η) Unit}
    (resumed : Resumed before result) :
    (finalState result).stack.depth = before.stack.depth := by
  cases resumed with
  | missing | waiting => rfl
  | ended waits completed => exact completed.depth_eq

/-- Where an interrupt routine is under way, with these frames outside of it, and the read that it
interrupted is pending. No other interrupt routine is inside it. -/
structure Machine.Interrupts (outer : List Frame) (read : PendingRead) (machine : Machine η) :
    Prop where
  outside : outer <:+ machine.stack.frames
  deep : outer.length < machine.stack.depth
  within : machine.stack.InterruptsWithin outer.length
  pending : machine.pending = some read

/-- What a step that goes on keeps of interrupt routines and of the read, unless it comes back from
a routine. -/
theorem Machine.Stepped.kept_or_back {result : EStateM.Result Error (Machine η) Unit}
    (stepped : machine.Stepped result)
    (onward : ∀ instruction, machine.Executes instruction →
      instruction.goesBack machine.version = false)
    (running : (finalState result).status = .running) :
    (machine.ReadKept (finalState result) ∧ (finalState result).pending = machine.pending) ∨
      ∃ inner frame outer, machine.stack.frames = inner ++ frame :: outer ∧
        frame.kind = .interrupt ∧ (finalState result).stack.depth = outer.length := by
  have kept {instruction : Instruction} (executes : machine.Executes instruction) :
      InterruptsKept machine (Engine.dispatch instruction machine.counted) ∧
        (¬ Waits (Engine.dispatch instruction machine.counted) →
          (finalState (Engine.dispatch instruction machine.counted)).pending = machine.pending) := by
    have onward : instruction.goesBack machine.counted.version = false :=
      onward instruction executes
    exact ⟨(Engine.interruptsKept_onward onward).of_outlives (.refl _) rfl,
      (Engine.onward_dispatch onward).pending_eq⟩
  cases stepped with
  | idle | undecoded => exact .inl ⟨.of_outlives (.refl _) rfl, rfl⟩
  | stopped executes failed quiet =>
    obtain ⟨kept, same⟩ := kept executes
    rw [failed] at kept same
    cases kept with
    | kept read => exact .inl ⟨read.trans (.quiet quiet), quiet.pending.trans (same id)⟩
  | passed executes failed quiet =>
    obtain ⟨kept, same⟩ := kept executes
    rw [failed] at kept same
    cases kept with
    | kept read =>
      exact .inl ⟨(read.trans (.quiet quiet)).trans (.setPc _ _),
        (Engine.pending_setPc _ _).trans (quiet.pending.trans (same id))⟩
  | @advanced instruction next after executes ran =>
    obtain ⟨kept, same⟩ := kept executes
    rw [ran] at kept same
    cases next with
    | await | quit => cases running
    | goto address =>
      cases kept with
      | kept read =>
        exact .inl ⟨read.trans (.setPc address after),
          (Engine.pending_setPc address after).trans (same id)⟩
    | resume address value =>
      cases kept with
      | kept read stays => exact absurd trivial stays
      | resumes frames interrupt pending =>
        exact .inr ⟨_, _, _, frames, interrupt,
          (Engine.resumed_advance address value after).depth_eq⟩

/-- Steps of a running machine that stay inside a routine: they keep more than so many frames, and
go back to no snapshot. Some may fail, and none waits for input unless it is the last. -/
inductive Machine.Interlude (depth : Nat) : Machine η → Machine η → Prop where
  | refl (machine : Machine η) : Interlude depth machine machine
  | step {before after : Machine η} {input : Option InputResponse}
      (running : before.status = .running)
      (onward : ∀ instruction, before.Executes instruction →
        instruction.goesBack before.version = false)
      (deep : depth < (finalState (Engine.step input before)).stack.depth)
      (rest : Interlude depth (finalState (Engine.step input before)) after) :
      Interlude depth before after

namespace Machine

variable {outer : List Frame} {read : PendingRead}

theorem Interlude.running {depth : Nat} {before after : Machine η}
    (interlude : Interlude depth before after) (running : after.status = .running) :
    before.status = .running := by
  cases interlude with
  | refl => exact running
  | step here => exact here

theorem Interlude.reaches {depth : Nat} {before after : Machine η}
    (interlude : Interlude depth before after) : Reaches before after := by
  induction interlude with
  | refl => exact .refl
  | step running onward deep rest ih => exact (Engine.reaches_step _ _).trans ih

/-- All along, the frames that were interrupted stay as they were. -/
theorem Interlude.outside {before after : Machine η}
    (interlude : Interlude outer.length before after) (outside : outer <:+ before.stack.frames)
    (deep : outer.length < before.stack.depth) : outer <:+ after.stack.frames := by
  induction interlude with
  | refl => exact outside
  | @step _ _ input running onward deeper rest ih =>
    have left := Engine.stackAfter_step (.inl running) (Nat.zero_lt_of_lt deep) onward input
    exact ih (left.suffix outside deep deeper) deeper

theorem Interrupts.step (interrupts : machine.Interrupts outer read)
    (running : machine.status = .running)
    (onward : ∀ instruction, machine.Executes instruction →
      instruction.goesBack machine.version = false) {input : Option InputResponse}
    (deep : outer.length < (finalState (Engine.step input machine)).stack.depth)
    (still : (finalState (Engine.step input machine)).status = .running) :
    (finalState (Engine.step input machine)).Interrupts outer read := by
  have left := Engine.stackAfter_step (.inl running) (Nat.zero_lt_of_lt interrupts.deep) onward input
  have outside := left.suffix interrupts.outside interrupts.deep deep
  obtain ⟨kept, pending⟩ | ⟨inner, frame, rest, frames, interrupt, depth⟩ :=
    (Engine.stepped_step running input).kept_or_back onward still
  · refine ⟨outside, deep, ?_, pending.trans interrupts.pending⟩
    intro inner frame rest frames interrupt
    obtain ⟨outlives, -⟩ := kept (.of_mem frames interrupt)
    exact interrupts.within.of_outlives outlives inner frame rest frames interrupt
  · have bounded := interrupts.within inner frame rest frames interrupt
    omega

theorem Interrupts.interlude {before after : Machine η} (interrupts : before.Interrupts outer read)
    (interlude : Interlude outer.length before after) (running : after.status = .running) :
    after.Interrupts outer read := by
  induction interlude with
  | refl => exact interrupts
  | step here onward deep rest ih =>
    exact ih (interrupts.step here onward deep (rest.running running)) running

/-- Coming back from the routine leads to the frames and the read that it interrupted. -/
theorem Interrupts.returned (interrupts : machine.Interrupts outer read) {instruction : Instruction}
    (onward : instruction.goesBack machine.version = false) {address : Nat} {value : UInt16}
    {after : Machine η} (returns : Engine.dispatch instruction machine.counted =
      .ok (.resume address value) after) (depth : after.stack.depth = outer.length) :
    after.stack.frames = outer ∧ outer ≠ [] ∧ after.pending = some read := by
  have onward : instruction.goesBack machine.counted.version = false := onward
  have kept := Engine.interruptsKept_onward onward
  have active := Engine.onward_dispatch onward
  rw [returns] at kept active
  cases kept with
  | kept read stays => exact absurd trivial stays
  | @resumes _ _ _ inner frame frames interrupt pending =>
    have suffix : after.stack.frames <:+ machine.counted.stack.frames :=
      ⟨inner ++ [frame], by simpa using frames.symm⟩
    have inside := List.suffix_of_suffix_length_le suffix interrupts.outside (Nat.le_of_eq depth)
    have frames := inside.eq_of_length depth
    exact ⟨frames, frames ▸ active.active_of_resume, pending.trans interrupts.pending⟩

/-- A response after which there are more frames has had the routine of the read called. -/
theorem interrupts_of_pushed {request : InputRequest} {response : InputResponse}
    {after : Machine η} (reading : machine.status = .reading request)
    (waits : machine.pending = some read)
    (fired : Engine.step (some response) machine = .ok () after)
    (pushed : machine.stack.depth < after.stack.depth) :
    after.Interrupts machine.stack.frames { read.typing response.values with timer := {} } := by
  have answered := Engine.answered_takeInput machine response
  rw [← Engine.step_of_response reading, fired] at answered
  have unended : read.request.LeftOpenBy response := by
    by_contra ends
    obtain ⟨value, ending⟩ := PendingRead.exists_ending ends
    cases answered with
    | @completed other value middle _ found ended noted completed =>
      have same := Engine.sameStack_noteClick value { machine with pending := none }
      rw [noted] at same
      have depth : after.stack.depth = middle.stack.depth := completed.depth_eq
      rw [depth, show middle.stack = machine.stack from same] at pushed
      exact absurd pushed (Nat.lt_irrefl _)
    | interrupted found unended | waiting found unended =>
      rw [waits, Option.some.injEq] at found
      subst found
      rw [unended] at ending
      cases ending
  rw [Engine.step_of_response reading, Engine.takeInput_of_leftOpen waits unended] at fired
  cases counted : (read.typing response.values).timer.accumulated.add? response.counted with
  | none =>
    rw [Engine.passTime_of_overflow counted] at fired
    cases fired
  | some time =>
    by_cases inTime : (read.typing response.values).InTime time
    · rw [Engine.passTime_of_inTime counted inTime] at fired
      cases fired
      exact absurd pushed (Nat.lt_irrefl _)
    · simp only [PendingRead.InTime, not_forall, not_not] at inTime
      obtain ⟨limit, timed, late⟩ := inTime
      have calls := Engine.callsRoutine_of_late machine _ counted timed late
      rw [fired] at calls
      cases calls with
      | entered found =>
        exact ⟨List.suffix_cons _ _, pushed, machine.stack.interruptsWithin_push _, rfl⟩

end Machine

end Steps

/-! What the end of a read stores. -/

section Storing

/-- If an action works, the last thing that it does is to store the result of an instruction. -/
def Stores (instruction : Instruction) (value : UInt16) (action : Engine η Continuation) : Prop :=
  ∀ ⦃before next after⦄, .v5 ≤ before.version → action before = .ok next after →
    ∃ delivered, delivered.stack = before.stack ∧
      Engine.storeResult instruction value delivered = .ok () after

theorem Stores.ite {instruction : Instruction} {value : UInt16} {condition : Prop}
    [Decidable condition] {first second : Engine η Continuation}
    (yes : Stores instruction value first) (no : Stores instruction value second) :
    Stores instruction value (if condition then first else second) := by
  split
  · exact yes
  · exact no

theorem Engine.finishWith_eq_ok {instruction : Instruction} {value : UInt16}
    {before after : Machine η} {next : Continuation}
    (finished : finishWith instruction value before = .ok next after) :
    storeResult instruction value before = .ok () after := by
  rw [finishWith] at finished
  cases stored : storeResult instruction value before with
  | error error middle =>
    rw [bind_of_error stored] at finished
    cases finished
  | ok _ middle =>
    rw [bind_of_ok stored] at finished
    cases finished
    rfl

theorem Engine.stores_finishWith (instruction : Instruction) (value : UInt16) :
    Stores instruction value (finishWith instruction value : Engine η Continuation) :=
  fun before _ _ _ finished => ⟨before, rfl, finishWith_eq_ok finished⟩

variable [Host η]

theorem Stores.bind {instruction : Instruction} {value : UInt16} {first : Engine η α}
    {next : α → Engine η Continuation} (here : Keeps Machine.SameStack first)
    (quiet : Keeps Quiet first) (there : ∀ found, Stores instruction value (next found)) :
    Stores instruction value (first >>= next) := by
  intro before target after recent ran
  have same := here before
  have silent := quiet before
  cases started : first before with
  | error error middle =>
    rw [bind_of_error started] at ran
    cases ran
  | ok found middle =>
    rw [bind_of_ok started] at ran
    rw [started] at same silent
    have version : middle.version = before.version := silent.story.version
    obtain ⟨delivered, stack, stored⟩ := there found (version ▸ recent) ran
    exact ⟨delivered, stack.trans same, stored⟩

theorem Stores.ite_bind {instruction : Instruction} {value : UInt16} {condition : Prop}
    [Decidable condition] {first : Engine η Unit} {next : Unit → Engine η Continuation}
    (here : Keeps Machine.SameStack first) (quiet : Keeps Quiet first)
    (there : ∀ found, Stores instruction value (next found)) :
    Stores instruction value (if condition then first >>= next else next ()) :=
  (Stores.bind here quiet there).ite (there ())

namespace Engine

theorem stores_finishLine (instruction : Instruction) (operands : Operands) (line : List Zscii)
    (terminator : Zscii) : Stores instruction terminator
      (finishLine instruction operands line terminator : Engine η Continuation) := by
  have stored (_ : Unit) : Stores instruction terminator (do
      if .v5 ≤ (← version) then
        storeResult instruction terminator
      proceed instruction : Engine η Continuation) := by
    intro before next after recent ran
    have chosen : (do
        if .v5 ≤ (← version) then
          storeResult instruction terminator
        proceed instruction : Engine η Continuation) before =
        finishWith instruction terminator before := by
      change (if .v5 ≤ before.version then _ else _ : Engine η Continuation) before = _
      rw [if_pos recent]
      rfl
    exact stores_finishWith instruction terminator recent (chosen ▸ ran)
  refine .bind (sameStack_update _) (quiet_update (Update.keeps_writeLine _ line)) fun _ => ?_
  refine .ite (.bind keeps_get keeps_get fun machine => ?_) (stored ())
  exact .bind (sameStack_tokenise _ _ _ _) (quiet_tokenise _ _ _ _) stored

theorem stores_deliver {read : PendingRead} (line : read.request.kind = .line)
    (terminator : Zscii) :
    Stores read.instruction terminator (deliver read terminator : Engine η Continuation) := by
  simp only [deliver, line]
  refine .bind keeps_get keeps_get fun machine => ?_
  refine .ite_bind (sameStack_notify _) (quiet_notify _) fun _ => ?_
  refine .ite_bind (sameStack_notify _) (quiet_notify _) fun _ => ?_
  exact stores_finishLine _ _ _ terminator

theorem deliver_stores {read : PendingRead} {before after : Machine η} {next : Continuation}
    (recent : read.request.kind = .character ∨ .v5 ≤ before.version) {terminator : Zscii}
    (ran : deliver read terminator before = .ok next after) :
    ∃ delivered, delivered.stack = before.stack ∧
      storeResult read.instruction terminator delivered = .ok () after := by
  cases kind : read.request.kind with
  | character =>
    simp only [deliver, kind] at ran
    exact ⟨before, rfl, finishWith_eq_ok ran⟩
  | line =>
    have recent : .v5 ≤ before.version := recent.resolve_left (by simp [kind])
    exact stores_deliver kind terminator recent ran

/-- A read that ends without input stores 0, even if its line cannot be put in its place. -/
theorem carryOn_stores {read : PendingRead} {before after : Machine η} {next : Continuation}
    {old : Frame} {outer : List Frame} (frames : before.stack.frames = old :: outer)
    (recent : read.request.kind = .character ∨ .v5 ≤ before.version)
    (ran : carryOn read.instruction (deliver read 0) before = .ok next after) :
    ∃ delivered, delivered.stack = before.stack ∧
      storeResult read.instruction 0 delivered = .ok () after := by
  cases delivery : deliver read 0 before with
  | ok target reached =>
    rw [carryOn, tryCatch_of_ok delivery] at ran
    cases ran
    exact deliver_stores recent delivery
  | error error failed =>
    have same : failed.stack = before.stack := by
      obtain ⟨_, _, _, worked, _⟩ | ⟨_, _, refused, same⟩ := concludes_deliver read 0 frames
      · cases delivery.symm.trans worked
      · cases delivery.symm.trans refused
        exact same
    rw [carryOn, tryCatch_of_error delivery, degrade] at ran
    have silent := sameStack_report error failed
    cases reported : report error failed with
    | error error stopped =>
      rw [bind_of_error reported] at ran
      cases ran
    | ok _ going =>
      rw [bind_of_ok reported] at ran
      rw [reported] at silent
      exact ⟨going, silent.trans same, finishWith_eq_ok ran⟩

theorem finishRead_stores {read : PendingRead} {before after : Machine η} {old : Frame}
    {outer : List Frame} (frames : before.stack.frames = old :: outer)
    (recent : read.request.kind = .character ∨ .v5 ≤ before.version)
    (finished : finishRead read 0 before = .ok () after) :
    ∃ delivered, delivered.stack = before.stack ∧
      (storeResult read.instruction 0 >>= fun _ => setPc read.instruction.next) delivered =
        .ok () after := by
  have running : (modify fun machine => { machine with status := .running } : Engine η Unit)
      before = .ok () { before with status := .running } := rfl
  have frames' : { before with status := .running }.stack.frames = old :: outer := frames
  have recent' : read.request.kind = .character ∨
      .v5 ≤ { before with status := .running }.version := recent
  rw [finishRead, bind_of_ok running] at finished
  cases ran : carryOn read.instruction (deliver read 0) { before with status := .running } with
  | error error middle =>
    rw [bind_of_error ran] at finished
    cases finished
  | ok next middle =>
    rw [bind_of_ok ran, proceeds_carryOn (proceeds_deliver read 0) ran] at finished
    obtain ⟨delivered, stack, stored⟩ := carryOn_stores frames' recent' ran
    exact ⟨delivered, stack, (bind_of_ok stored).trans finished⟩

end Engine

end Storing

/-- What becomes of a read when its interrupt routine returns a value, where the frames are those
that the routine interrupted and the line so far is this one. -/
structure Machine.TakesUp [Host η] (asking last returned : Machine η) (read : PendingRead)
    (line : List Zscii) (value : UInt16) : Prop where
  frames : returned.stack = asking.stack
  /-- With 0 the read goes on, and shows the line again. -/
  again : value = 0 → ∀ input, Engine.step input last = .ok () { returned with
    status := .reading { read.request with preloaded := line, redraw := true }
    pending := some { read with
      request := { read.request with preloaded := line, redraw := true }
      input := line
      timer := {} } }
  /-- With any other value the read ends there, as if by the terminator 0. -/
  ended : value ≠ 0 → ∀ input, Engine.step input last =
    Engine.finishRead { read with input := line, timer := {} } 0 { returned with pending := none }
  /-- If that works, execution goes on after the read, whose result is 0. -/
  finished : value ≠ 0 → ∀ input after, Engine.step input last = .ok () after →
    after.status = .running ∧ after.pending = none ∧
    (∃ top, after.stack.frames = top :: asking.stack.frames.tail ∧
      top.pc = read.instruction.next) ∧
    (read.request.kind = .character ∨ .v5 ≤ asking.version →
      ∃ delivered, delivered.stack = asking.stack ∧
        (Engine.storeResult read.instruction 0 >>= fun _ => Engine.setPc read.instruction.next)
          delivered = .ok () after)

section Returns

variable [Host η]

namespace Engine

variable {read : PendingRead} {before after : Machine η} {value : UInt16}

theorem advance_of_ended (waits : before.pending = some read) (wanted : value ≠ 0) (address : Nat) :
    advance (.resume address value) before = finishRead read 0 { before with pending := none } := by
  rw [advance]
  dsimp only
  rw [get_bind]
  simp only [waits, ne_eq, wanted, not_false_eq_true, ↓reduceIte]
  rfl

theorem advance_of_again (waits : before.pending = some read) (address : Nat) :
    advance (.resume address 0) before = .ok () { before with
      status := .reading (read.request.resume read.input)
      pending := some { read with request := read.request.resume read.input } } := by
  rw [advance]
  dsimp only
  rw [get_bind]
  simp only [waits]
  rfl

/-- Once a read has ended, execution goes on after it. -/
theorem finishRead_went {terminator : Zscii} {old : Frame} {outer : List Frame}
    (frames : before.stack.frames = old :: outer)
    (finished : finishRead read terminator before = .ok () after) :
    after.status = .running ∧ after.pending = before.pending ∧
      ∃ top, after.stack.frames = top :: outer ∧ top.pc = read.instruction.next := by
  obtain ⟨resumed, -, stack⟩ := finishRead_resumed frames read terminator
  have completed := completed_finishRead read terminator before
  rw [finished] at stack completed
  refine ⟨completed.running, completed.pending_eq, ?_⟩
  generalize went : EStateM.Result.ok () after = result at completed
  cases completed with
  | stopped => cases went
  | @went middle quiet =>
    obtain ⟨-, stuck⟩ | ⟨frame, rest, -, set⟩ := setPc_cases read.instruction.next middle
    · rw [stuck] at went
      cases went
    · rw [set] at went
      cases went
      cases stack
      exact ⟨_, rfl, rfl⟩

end Engine

theorem Machine.Interrupts.takesUp {asking last returned : Machine η} {read : PendingRead}
    {line : List Zscii}
    (interrupts : last.Interrupts asking.stack.frames { read with input := line, timer := {} })
    (reached : Reaches asking last) {instruction : Instruction}
    (executes : last.Executes instruction) (onward : instruction.goesBack last.version = false)
    {address : Nat} {value : UInt16} (returns : Engine.dispatch instruction last.counted =
      .ok (.resume address value) returned) (depth : returned.stack.depth = asking.stack.depth) :
    asking.TakesUp last returned read line value := by
  obtain ⟨frames, active, pending⟩ := interrupts.returned onward returns depth
  have stepped (input : Option InputResponse) := Engine.step_of_ok executes returns input
  have ended (wanted : value ≠ 0) (input : Option InputResponse) :=
    (stepped input).trans (Engine.advance_of_ended pending wanted address)
  refine ⟨congrArg CallStack.mk frames, fun none input => ?_, ended, ?_⟩
  · subst none
    exact (stepped input).trans (Engine.advance_of_again pending address)
  · intro wanted input after finished
    rw [ended wanted] at finished
    obtain ⟨old, outer, top⟩ := List.exists_cons_of_ne_nil active
    have frames' : { returned with pending := none }.stack.frames = old :: outer :=
      frames.trans top
    obtain ⟨running, gone, goes⟩ := Engine.finishRead_went frames' finished
    refine ⟨running, gone, top ▸ goes, fun recent => ?_⟩
    have back := Engine.reaches_dispatch instruction last.counted
    rw [returns] at back
    have counted : Reaches last last.counted := .single .counted
    have format := (Story.SameLayout.reaches ((reached.trans counted).trans back)).format
    have version : { returned with pending := none }.version = asking.version :=
      congrArg Format.version format
    obtain ⟨delivered, stack, stored⟩ :=
      Engine.finishRead_stores frames' (version ▸ recent) finished
    exact ⟨delivered, stack.trans (congrArg CallStack.mk frames), stored⟩

end Returns

/-- A timed read survives its interrupt routine. Once a response has had the routine called, the
frames that it interrupted stay as they were, whatever happens inside it, as long as nothing goes
back to a snapshot. When the routine returns 0, the same read waits again with the line so far; when
it returns anything else, the read ends with that line. -/
theorem Machine.read_survives_interrupt [Host η] {fresh started interrupted : Machine η}
    (begun : Engine.start fresh = .ok () started) (inputs : List (Option InputResponse))
    {request : InputRequest} (reading : (started.afterSteps inputs).status = .reading request)
    {response : InputResponse}
    (fired : Engine.step (some response) (started.afterSteps inputs) = .ok () interrupted)
    (pushed : (started.afterSteps inputs).stack.depth < interrupted.stack.depth) :
    let asking := started.afterSteps inputs
    ∃ read, asking.pending = some read ∧ read.request = request ∧
      (request.kind = .line → read.input = request.preloaded) ∧
      (∀ during, Interlude asking.stack.depth interrupted during →
        asking.stack.frames <:+ during.stack.frames) ∧
      ∀ last instruction address value returned,
        Interlude asking.stack.depth interrupted last → last.Executes instruction →
        instruction.goesBack last.version = false →
        Engine.dispatch instruction last.counted = .ok (.resume address value) returned →
        returned.stack.depth = asking.stack.depth →
        asking.TakesUp last returned read (request.typed read.input response.values) value := by
  intro asking
  obtain reads | stranded := hasRead_or_stranded begun inputs
  · obtain ⟨read, stored, rfl⟩ := reads.read request reading
    have interrupts := interrupts_of_pushed reading stored fired pushed
    refine ⟨read, stored, rfl, reads.shown _ read reading stored, fun during interlude => ?_, ?_⟩
    · exact interlude.outside interrupts.outside interrupts.deep
    · intro last instruction address value returned interlude executes onward returns depth
      have entered := Engine.reaches_step (some response) asking
      rw [fired] at entered
      have inside : last.Interrupts asking.stack.frames { read with
          input := read.request.typed read.input response.values
          timer := {} } := interrupts.interlude interlude executes.running
      exact inside.takesUp (entered.trans interlude.reaches) executes onward returns depth
  · cases (stranded.step_eq (some response)).symm.trans fired

/-- The value that the next instruction returns to a read from its interrupt routine, and how many
frames are left then. -/
def Machine.returning? [Host η] (machine : Machine η) : Option (UInt16 × Nat) :=
  machine.executed?.bind fun instruction =>
    match Engine.dispatch instruction machine.counted with
    | .ok (.resume _ value) after => some (value, after.stack.depth)
    | _ => none

theorem Machine.returning?_eq_some [Host η] {machine : Machine η} {value : UInt16} {depth : Nat}
    (returns : machine.returning? = some (value, depth)) :
    ∃ instruction address returned, machine.executed? = some instruction ∧
      Engine.dispatch instruction machine.counted = .ok (.resume address value) returned ∧
      returned.stack.depth = depth := by
  obtain ⟨instruction, found, ran⟩ := Option.bind_eq_some_iff.mp returns
  split at ran
  next address other returned dispatched =>
    cases ran
    exact ⟨instruction, address, returned, found, dispatched, rfl⟩
  next => cases ran

theorem Machine.Interlude.single [Host η] {machine : Machine η} {depth : Nat}
    (onward : machine.executed?.map (·.goesBack machine.version) = some false)
    (deep : depth < (finalState (Engine.step none machine)).stack.depth) :
    Interlude depth machine (finalState (Engine.step none machine)) := by
  obtain ⟨instruction, executed, onward⟩ := Option.map_eq_some_iff.mp onward
  refine .step (executed?_eq_some_iff.mp executed).running (fun other executes => ?_) deep (.refl _)
  cases executed.symm.trans (executed?_eq_some_iff.mpr executes)
  exact onward

def lateLetter : InputResponse :=
  { values := [.character 72], elapsed := .ofMilliseconds 1000 }

/-- The routine stores a number and returns 1, and the read ends with the letter, the result 0 and
the address after the read. -/
theorem Machine.read_survives_interrupt_timedImage :
    ∃ started, Machine.started? timedImage = some started ∧
      let asking := started.afterSteps [none]
      asking.status = .reading timedRequest ∧
      ∃ interrupted, Engine.step (some lateLetter) asking = .ok () interrupted ∧
        asking.stack.depth < interrupted.stack.depth ∧
        let last := interrupted.afterSteps [none]
        last.story.memory.wordAt 0x4e = 7 ∧ Interlude asking.stack.depth interrupted last ∧
        ∃ read instruction address returned, asking.pending = some read ∧
          last.Executes instruction ∧ instruction.goesBack last.version = false ∧
          Engine.dispatch instruction last.counted = .ok (.resume address 1) returned ∧
          returned.stack.depth = asking.stack.depth ∧
          asking.TakesUp last returned read [104] 1 := by
  have runs : (Machine.started? timedImage).any (fun started =>
      let asking := started.afterSteps [none]
      let answered := Engine.step (some lateLetter) asking
      let interrupted := finalState answered
      let last := interrupted.afterSteps [none]
      asking.status = .reading timedRequest ∧ failure? answered = none ∧
        asking.stack.depth < interrupted.stack.depth ∧
        interrupted.executed?.map (·.goesBack interrupted.version) = some false ∧
        asking.stack.depth < last.stack.depth ∧ last.story.memory.wordAt 0x4e = 7 ∧
        last.returning? = some (1, asking.stack.depth) ∧
        last.executed?.map (·.goesBack last.version) = some false ∧
        asking.pending.map (fun read => timedRequest.typed read.input lateLetter.values) =
          some [104]) = true := by
    decide +kernel
  obtain ⟨started, begun, reached⟩ := (Option.any_eq_true _ _).mp runs
  obtain ⟨reading, fine, pushed, stays, deep, noted, returns, onward, typed⟩ :=
    of_decide_eq_true reached
  obtain ⟨fresh, -, start⟩ := Machine.started?_eq_some begun
  have fired := eq_ok_of_failure? fine
  have interlude := Interlude.single stays deep
  obtain ⟨instruction, address, returned, executed, dispatched, depth⟩ :=
    Machine.returning?_eq_some returns
  rw [executed, Option.map_some, Option.some.injEq] at onward
  have executes := Machine.executed?_eq_some_iff.mp executed
  obtain ⟨read, stored, -, -, -, takes⟩ := read_survives_interrupt start [none] reading fired pushed
  rw [stored, Option.map_some, Option.some.injEq] at typed
  have taken := takes _ instruction address 1 returned interlude executes onward dispatched depth
  rw [typed] at taken
  exact ⟨started, begun, reading, _, fired, pushed, noted, interlude, read, instruction, address,
    returned, stored, executes, onward, dispatched, depth, taken⟩

/-- A machine of version 5 that stops at errors. It reads a line of up to 4 characters, with a
routine to call after a tenth of a second, and has a parse buffer that is not in memory. -/
def abortingReader : Machine MemoryStore :=
  { Machine.ofBytes .v5 [(0x40, 0xe4), (0x41, 0x55), (0x42, 0x50), (0x43, 0xf0), (0x44, 1),
      (0x45, 0x15), (0x47, 0xba), (0x50, 4), (0x55, 0xb0)] with
    config := { errorPolicy := .abort } }

/-- A routine returns 1, but the read does not end: its line cannot be parsed, and that is an error
to stop at. -/
theorem Machine.interrupted_read_aborts :
    let asking := abortingReader.afterSteps [none]
    let interrupted := asking.afterSteps [some lateLetter]
    asking.status = .reading (.line 4 [] [] 1 0x54) ∧
      asking.pending.map (·.instruction.next) = some 0x47 ∧
      asking.stack.depth < interrupted.stack.depth ∧
      interrupted.returning? = some (1, asking.stack.depth) ∧
      failure? (Engine.step none interrupted) = some (.byteBeyondMemory 0xf0 0x7f) ∧
      (interrupted.afterSteps [none]).stack.frames.map (·.pc) = [0x40] := by
  decide +kernel

end StoryMachine
