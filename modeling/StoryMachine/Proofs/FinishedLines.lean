import StoryMachine.Proofs.ParseBuffers

/-! Lines that were read. A line is put in its text buffer, its words are noted in a parse buffer,
and from version 5 on what ended it is stored. None of this writes past the buffers, also where it
fails, and what the buffers have no room for is left out. -/

namespace StoryMachine

/-- A line can have a code: it can be typed or, from version 5 on, stand in the buffer before. -/
def Version.AllowsInLine (version : Version) (code : Zscii) : Prop :=
  isLineCharacter code = true ∨ (.v5 ≤ version ∧ code < 256)

instance (version : Version) (code : Zscii) : Decidable (version.AllowsInLine code) :=
  inferInstanceAs (Decidable (_ ∨ _))

def Version.lineBytes (version : Version) (text : List Zscii) : List UInt8 :=
  if version < .v5 then text.map lowByte ++ [0]
  else UInt8.ofNat text.length :: text.map lowByte

theorem Version.AllowsInLine.lt {version : Version} {code : Zscii}
    (allowed : version.AllowsInLine code) : code.toNat < 256 := by
  rcases allowed with typed | ⟨-, small⟩
  · simp only [isLineCharacter, decide_eq_true_eq, UInt16.le_iff_toNat_le] at typed
    have first : (126 : UInt16).toNat = 126 := rfl
    have last : (251 : UInt16).toNat = 251 := rfl
    omega
  · exact UInt16.lt_iff_toNat_lt.mp small

theorem Version.AllowsInLine.pos {version : Version} {code : Zscii}
    (allowed : version.AllowsInLine code) (early : version < .v5) : 0 < code.toNat := by
  rcases allowed with typed | ⟨late, -⟩
  · simp only [isLineCharacter, decide_eq_true_eq, UInt16.le_iff_toNat_le] at typed
    have first : (32 : UInt16).toNat = 32 := rfl
    have second : (155 : UInt16).toNat = 155 := rfl
    omega
  · exact absurd early (Nat.not_lt.mpr late)

theorem toUInt16_lowByte {code : Zscii} (small : code.toNat < 256) :
    (lowByte code).toUInt16 = code := by
  apply UInt16.toNat_inj.mp
  simp [lowByte, Nat.mod_eq_of_lt small]

namespace Story

variable {story : Story} {buffer : Nat}

def lineCapacity (story : Story) (buffer : Nat) : Nat :=
  let size := (story.memory.byteAt buffer).toNat
  if story.version < .v5 then size - 1 else size

/-- Where in a text buffer a line may stand, with the zero after it or the length before it. Even a
buffer of size 0 is taken to have room for the zero. -/
def lineRegion (story : Story) (buffer : Nat) : Region :=
  let size := (story.memory.byteAt buffer).toNat
  ⟨buffer + 1, buffer + 1 + if story.version < .v5 then max size 1 else size + 1⟩

theorem lineBytes_inside (story : Story) (buffer : Nat) (line : List Zscii) :
    buffer + 1 + (story.version.lineBytes (line.take (story.lineCapacity buffer))).length ≤
      (story.lineRegion buffer).stop := by
  simp only [lineRegion, lineCapacity, Version.lineBytes]
  split
  next =>
    simp only [List.length_append, List.length_map, List.length_take, List.length_singleton]
    omega
  next =>
    simp only [List.length_cons, List.length_map, List.length_take]
    omega

theorem bytesUntilZero_of_holds {bytes : List UInt8} (nonzero : 0 ∉ bytes) {address count : Nat}
    (short : bytes.length ≤ count) (held : story.memory.Holds address (bytes ++ [0])) :
    story.bytesUntilZero address count = .ok bytes := by
  induction bytes generalizing address count with
  | nil =>
    cases count with
    | zero => rfl
    | succ count =>
      rw [bytesUntilZero, (Memory.holds_cons.mp held).1]
      rfl
  | cons byte rest ih =>
    cases count with
    | zero => cases short
    | succ count =>
      obtain ⟨first, later⟩ := Memory.holds_cons.mp held
      have next := ih (fun member => nonzero (.tail _ member)) (Nat.le_of_succ_le_succ short) later
      have stop : byte ≠ 0 := fun zero => nonzero (zero ▸ .head _)
      rw [bytesUntilZero, first]
      simp only [bind, Except.bind, if_neg stop, next]
      rfl

/-- A line that stands in a text buffer is the text of the buffer. -/
theorem bufferText_of_holds {text : List Zscii}
    (allowed : ∀ code ∈ text, story.version.AllowsInLine code)
    (short : text.length ≤ story.lineCapacity buffer) (sized : buffer < story.memory.size)
    (held : story.memory.Holds (buffer + 1) (story.version.lineBytes text)) :
    story.bufferText buffer = .ok text := by
  have exact_codes : (text.map lowByte).map UInt8.toUInt16 = text := by
    rw [List.map_map]
    refine (List.map_congr_left fun code member => ?_).trans (List.map_id text)
    exact toUInt16_lowByte (allowed code member).lt
  simp only [lineCapacity] at short
  rw [Version.lineBytes] at held
  rw [bufferText]
  split at held
  next early =>
    rw [if_pos early] at short
    have nonzero : 0 ∉ text.map lowByte := by
      intro member
      obtain ⟨code, known, zero⟩ := List.mem_map.mp member
      have same := toUInt16_lowByte (allowed code known).lt
      have positive := (allowed code known).pos early
      rw [zero] at same
      rw [← same] at positive
      cases positive
    have size := Memory.readByte_eq_ok_iff.mpr ⟨sized, rfl⟩
    have found := bytesUntilZero_of_holds nonzero
      (by rw [List.length_map]; omega : _ ≤ (story.memory.byteAt buffer).toNat) held
    simp only [if_pos early, size, found, bind, Except.bind]
    exact congrArg Except.ok exact_codes
  next late =>
    rw [if_neg late] at short
    obtain ⟨count, held⟩ := Memory.holds_cons.mp held
    have bound := (story.memory.byteAt buffer).toNat_lt
    have length : (UInt8.ofNat text.length).toNat = text.length := by
      rw [UInt8.toNat_ofNat']
      omega
    have found := Memory.readBytes_eq_ok_iff.mpr ⟨List.length_map lowByte, held⟩
    simp only [if_neg late, count, length, found, bind, Except.bind]
    exact congrArg Except.ok exact_codes

/-- Where a line was put in a buffer, cut to what the buffer has room for, it stays the text of the
buffer as long as it stands there. -/
theorem bufferText_of_line {before after : Story} {touched : Nat → Prop} {line : List Zscii}
    (allowed : ∀ code ∈ line, before.version.AllowsInLine code)
    (sized : buffer < before.memory.size) (changed : ChangedOnly touched before after)
    (outside : ¬ touched buffer) (held : after.memory.Holds (buffer + 1)
      (before.version.lineBytes (line.take (before.lineCapacity buffer)))) :
    after.bufferText buffer = .ok (line.take (before.lineCapacity buffer)) := by
  have capacity : after.lineCapacity buffer = before.lineCapacity buffer := by
    simp only [lineCapacity, changed.version, changed.elsewhere buffer outside]
  apply bufferText_of_holds
  · rw [changed.version]
    exact fun code member => allowed code (List.mem_of_mem_take member)
  · rw [capacity]
    exact List.length_take_le _ _
  · rw [changed.size]
    exact sized
  · rw [changed.version]
    exact held

/-- What is written elsewhere leaves a line in its buffer. -/
theorem line_kept {before lined after : Story} {line : List Zscii}
    (allowed : ∀ code ∈ line, before.version.AllowsInLine code)
    (sized : buffer < before.memory.size)
    (written : ChangedOnly (· ∈ before.lineRegion buffer) before lined)
    (held : lined.memory.Holds (buffer + 1)
      (before.version.lineBytes (line.take (before.lineCapacity buffer))))
    (later : ChangedOnly (· ∉ Region.mk buffer (before.lineRegion buffer).stop) lined after) :
    after.memory.Holds (buffer + 1)
        (before.version.lineBytes (line.take (before.lineCapacity buffer))) ∧
      after.bufferText buffer = .ok (line.take (before.lineCapacity buffer)) := by
  have room := before.lineBytes_inside buffer line
  have kept : after.memory.Holds (buffer + 1)
      (before.version.lineBytes (line.take (before.lineCapacity buffer))) := by
    refine later.holds (fun index inside outside => outside (Region.mem_mk.mpr ⟨?_, ?_⟩)) held
    · omega
    · omega
  have changed : ChangedOnly (· ≠ buffer) before after := by
    refine (written.mono ?_).trans (later.mono ?_)
    · rintro byte member rfl
      have start := (Region.mem_iff.mp member).1
      simp only [lineRegion] at start
      omega
    · rintro byte outside rfl
      exact outside (Region.mem_mk.mpr ⟨Nat.le_refl _, by omega⟩)
  exact ⟨kept, bufferText_of_line allowed sized changed (fun ne => ne rfl) kept⟩

/-- Where in memory the result of an instruction is stored, if it goes to a global variable. -/
def resultRegion? (story : Story) (instruction : Instruction) : Option Region :=
  instruction.store.bind fun store =>
    let number := store.target.toNat
    if number < firstGlobal then none
    else some ⟨story.globalAddress number, story.globalAddress number + 2⟩

end Story

namespace Update
open Story

variable {story after : Story} {buffer : Nat} {line : List Zscii}

theorem writeLine_eq (sized : buffer < story.memory.size) (line : List Zscii) :
    writeLine buffer line story = writeBytes (buffer + 1)
      (story.version.lineBytes (line.take (story.lineCapacity buffer))) story := by
  have size := Memory.readByte_eq_ok_iff.mpr ⟨sized, rfl⟩
  have capacity : story.bufferCapacity buffer = .ok (story.lineCapacity buffer) := by
    rw [bufferCapacity, size]
    rfl
  rw [writeLine, bind_of_ok (query_of_ok capacity), get_bind, Version.lineBytes]
  split
  next => rfl
  next => rw [List.length_map]

theorem writeLine_of_beyond (beyond : ¬ buffer < story.memory.size) (line : List Zscii) :
    ∃ error, writeLine buffer line story = .error error story := by
  have failed : query (·.bufferCapacity buffer) story =
      .error (.byteBeyondMemory buffer (story.memory.size - 1)) story := by
    simp only [query, bufferCapacity, Memory.readByte, if_neg beyond, bind, Except.bind]
  exact ⟨_, bind_of_error failed⟩

/-- A line is written in its part of the buffer. -/
theorem changed_writeLine (buffer : Nat) (line : List Zscii) (story : Story) :
    ChangedOnly (· ∈ story.lineRegion buffer) story (finalState (writeLine buffer line story)) := by
  by_cases sized : buffer < story.memory.size
  · rw [writeLine_eq sized]
    refine changes_writeBytes (fun byte member => ?_) story
    have inside := story.lineBytes_inside buffer line
    rw [Region.mem_mk] at member
    exact Region.mem_iff.mpr ⟨member.1, Nat.lt_of_lt_of_le member.2 inside⟩
  · obtain ⟨error, failed⟩ := writeLine_of_beyond sized line
    rw [failed]
    exact .refl _ story

theorem writeLine_holds (written : writeLine buffer line story = .ok () after) :
    buffer < story.memory.size ∧ after.memory.Holds (buffer + 1)
      (story.version.lineBytes (line.take (story.lineCapacity buffer))) := by
  by_cases sized : buffer < story.memory.size
  · rw [writeLine_eq sized] at written
    exact ⟨sized, writeBytes_holds written⟩
  · obtain ⟨error, failed⟩ := writeLine_of_beyond sized line
    rw [failed] at written
    cases written

end Update

def Machine.WroteOnly {η : Type} (touched : Nat → Prop) (before after : Machine η) : Prop :=
  Story.ChangedOnly touched before.story after.story

instance {η : Type} (touched : Nat → Prop) :
    IsPreorder (Machine η) (Machine.WroteOnly touched) where
  refl machine := .refl touched machine.story
  trans _ _ _ := .trans

theorem Machine.WroteOnly.of_eq {η : Type} {before after : Machine η} (touched : Nat → Prop)
    (same : after.story = before.story) : before.WroteOnly touched after := by
  rw [WroteOnly, same]
  exact .refl touched before.story

theorem Machine.WroteOnly.of_ok {η : Type} {touched : Nat → Prop} {before after : Machine η}
    {action : Engine η α} {value : α}
    (wrote : before.WroteOnly touched (finalState (action before)))
    (ran : action before = .ok value after) : before.WroteOnly touched after := by
  rwa [ran] at wrote

/-- Between two states of a machine, a value came into the variable for the result of an
instruction. A global variable is where the global table of the first state has it. -/
def Machine.GotResult {η : Type} (instruction : Instruction) (value : UInt16)
    (before after : Machine η) : Prop :=
  ∀ store, instruction.store = some store →
    let number := store.target.toNat
    if number < firstGlobal then
      ∃ frame outer, after.stack.frames = frame :: outer ∧ frame.peekVariable number = .ok value
    else after.story.memory.readWord (before.story.globalAddress number) = .ok value

namespace Engine

variable {η : Type} {machine : Machine η} {touched : Nat → Prop}

theorem wroteOnly_update {change : Update α}
    (changed : Story.ChangedOnly touched machine.story (finalState (change machine.story))) :
    machine.WroteOnly touched (finalState (update change machine)) := by
  cases made : change machine.story with
  | ok value story =>
    rw [made] at changed
    simp only [update, made]
    exact changed
  | error error story =>
    rw [made] at changed
    simp only [update, made]
    exact changed

theorem relates_query_bind {relation : Machine η → Machine η → Prop}
    [IsPreorder (Machine η) relation] {read : Story → Except Error α} {next : α → Engine η β}
    (there : ∀ value, read machine.story = .ok value →
      relation machine (finalState (next value machine))) :
    relation machine (finalState ((query read >>= next) machine)) := by
  cases found : read machine.story with
  | ok value =>
    rw [bind_of_ok (query_of_ok found)]
    exact there value found
  | error error =>
    rw [bind_of_error (query_of_error found)]
    exact refl_of relation machine

theorem sameStory_updateTop (change : Frame → Except Error (α × Frame)) :
    Keeps (fun before after : Machine η => after.story = before.story) (updateTop change) := by
  intro machine
  cases frames : machine.stack.frames with
  | nil => simp only [updateTop, updateStack, CallStack.modifyTop, frames, finalState]
  | cons frame outer =>
    cases changed : change frame with
    | ok result => rw [updateTop_of_ok frames changed, finalState]
    | error error => rw [updateTop_of_error frames changed, finalState]

/-- Writing a variable changes memory only where a global variable is. -/
theorem wroteOnly_storeResult (instruction : Instruction) (value : UInt16) (machine : Machine η) :
    machine.WroteOnly
      (fun byte => ∃ region ∈ machine.story.resultRegion? instruction, byte ∈ region)
      (finalState (storeResult instruction value machine)) := by
  cases store : instruction.store with
  | none =>
    simp only [storeResult, store]
    exact .of_eq _ rfl
  | some target =>
    simp only [storeResult, Story.resultRegion?, store, Option.bind_some]
    by_cases own : target.target.toNat < firstGlobal
    · rw [writeVariable, if_pos own, if_pos own]
      exact .of_eq _ (sameStory_updateTop _ machine)
    · rw [writeVariable_global own, if_neg own]
      split
      next =>
        refine Story.ChangedOnly.putWord _ machine.story ⟨_, rfl, ?_⟩ ⟨_, rfl, ?_⟩ value
        · rw [Region.mem_mk]
          omega
        · rw [Region.mem_mk]
          omega
      next => exact .of_eq _ rfl

theorem gotResult_storeResult {instruction : Instruction} {value : UInt16} {after : Machine η}
    (ran : storeResult instruction value machine = .ok () after) :
    machine.GotResult instruction value after := by
  intro store stores
  simp only [storeResult, stores] at ran
  dsimp only
  split
  next own =>
    cases frames : machine.stack.frames with
    | nil =>
      simp only [writeVariable, if_pos own, updateTop, updateStack, CallStack.modifyTop,
        frames] at ran
      cases ran
    | cons frame outer =>
      rw [writeVariable_own frames own] at ran
      split at ran
      next has =>
        cases ran
        exact ⟨_, outer, rfl, Frame.peekVariable_assigned has value frame.pc⟩
      next => cases ran
  next shared =>
    rw [writeVariable_global shared] at ran
    split at ran
    next inside =>
      cases ran
      have sized := Nat.lt_of_lt_of_le inside machine.story.memory.mark_le_size
      refine Memory.readWord_eq_ok_iff.mpr ⟨?_, Memory.wordAt_putWord sized value⟩
      rw [Memory.putWord, Memory.size_put, Memory.size_put]
      exact sized
    next => cases ran

def storeTerminator (instruction : Instruction) (terminator : Zscii) : Engine η Unit := do
  if .v5 ≤ (← version) then
    storeResult instruction terminator

theorem wroteOnly_storeTerminator (instruction : Instruction) (terminator : Zscii)
    (machine : Machine η) :
    machine.WroteOnly (fun byte => .v5 ≤ machine.version ∧
        ∃ region ∈ machine.story.resultRegion? instruction, byte ∈ region)
      (finalState (storeTerminator instruction terminator machine)) := by
  rw [storeTerminator]
  refine relates_bind (keeps_version machine) fun found middle ran => ?_
  cases ran
  split
  next late =>
    exact (wroteOnly_storeResult instruction terminator machine).mono fun _ member =>
      ⟨late, member⟩
  next => exact .of_eq _ rfl

theorem gotResult_storeTerminator {instruction : Instruction} {terminator : Zscii}
    {after : Machine η} (late : .v5 ≤ machine.version)
    (ran : storeTerminator instruction terminator machine = .ok () after) :
    machine.GotResult instruction terminator after := by
  have chosen : storeTerminator instruction terminator machine =
      storeResult instruction terminator machine := by
    change (if .v5 ≤ machine.version then _ else _ : Engine η Unit) machine = _
    rw [if_pos late]
  exact gotResult_storeResult (chosen ▸ ran)

variable [Host η]

/-- Words are noted behind the first byte of the parse buffer, as far as it has room for them. -/
theorem wroteOnly_tokenise (textBuffer parseBuffer dictionary : Nat) (skipUnknown : Bool)
    (machine : Machine η) :
    machine.WroteOnly
      (· ∈ Region.mk (parseBuffer + 1) (machine.story.parseRegion parseBuffer).stop)
      (finalState (tokenise textBuffer parseBuffer dictionary skipUnknown machine)) := by
  -- Where words go depends on the capacity that is read first, so the queries are gone through here.
  refine relates_query_bind fun separators _ => relates_query_bind fun text _ => ?_
  refine relates_query_bind fun capacity sized => ?_
  obtain ⟨-, rfl⟩ := Memory.readByte_eq_ok_iff.mp sized
  have room := (Word.split text separators).length_take_le
    (machine.story.memory.byteAt parseBuffer).toNat
  refine relates_bind (wroteOnly_update ?_) fun _ noted _ => ?_
  · refine Update.changes_writeTokens dictionary skipUnknown (fun byte member => ?_) machine.story
    simp only [Region.mem_mk, Story.parseRegion] at member ⊢
    omega
  have counted (middle : Machine η) : middle.WroteOnly
      (· ∈ Region.mk (parseBuffer + 1) (machine.story.parseRegion parseBuffer).stop)
      (finalState (update (Update.writeByte (parseBuffer + 1) (UInt8.ofNat
        (min (Word.split text separators).length (machine.story.memory.byteAt parseBuffer).toNat)))
        middle)) := by
    refine wroteOnly_update (Update.changes_writeByte ?_ _ _)
    simp only [Region.mem_mk, Story.parseRegion]
    omega
  split
  next =>
    exact relates_bind (.of_eq _ (sameStory_report _ noted)) fun _ told _ => counted told
  next => exact counted noted

def noteWords (buffer parseBuffer : Nat) : Engine η Unit := do
  if parseBuffer ≠ 0 then
    let dictionary := (← get).story.memory.headerWord .dictionary
    tokenise buffer parseBuffer dictionary.toNat false

theorem finishLine_eq (instruction : Instruction) (operands : Operands) (line : List Zscii)
    (terminator : Zscii) :
    (finishLine instruction operands line terminator : Engine η Continuation) = (do
      update (Update.writeLine operands.first.toNat line)
      noteWords operands.first.toNat operands.second.toNat
      storeTerminator instruction terminator
      proceed instruction) := by
  have stored : (do
      if .v5 ≤ (← version) then
        storeResult instruction terminator
      proceed instruction : Engine η Continuation) = (do
      storeTerminator instruction terminator
      proceed instruction) := by
    rw [storeTerminator, bind_assoc]
    refine bind_congr fun number => ?_
    split
    next => rfl
    next => rw [pure_bind]
  rw [finishLine]
  refine bind_congr fun _ => ?_
  rw [noteWords]
  dsimp only at stored ⊢
  split
  next =>
    rw [bind_assoc]
    exact bind_congr fun machine => bind_congr fun _ => stored
  next =>
    rw [pure_bind]
    exact stored

theorem wroteOnly_noteWords (buffer parseBuffer : Nat) (machine : Machine η) :
    machine.WroteOnly (fun byte => parseBuffer ≠ 0 ∧
        byte ∈ Region.mk (parseBuffer + 1) (machine.story.parseRegion parseBuffer).stop)
      (finalState (noteWords buffer parseBuffer machine)) := by
  rw [noteWords]
  split
  next used =>
    exact (wroteOnly_tokenise buffer parseBuffer _ false machine).mono fun _ member =>
      ⟨used, member⟩
  next => exact .of_eq _ rfl

/-- The words that are noted are those of the text buffer. -/
theorem filled_noteWords {buffer parseBuffer : Nat} {text : List Zscii} {after : Machine η}
    (ran : noteWords buffer parseBuffer machine = .ok () after) (used : parseBuffer ≠ 0)
    (readable : machine.story.bufferText buffer = .ok text) :
    let dictionary := (machine.story.memory.headerWord .dictionary).toNat
    ∃ separators, machine.story.separators dictionary = .ok separators ∧
      Story.Filled dictionary false parseBuffer (machine.story.memory.byteAt parseBuffer).toNat
        (Word.split text separators) machine.story after.story := by
  rw [noteWords, if_pos used, get_bind] at ran
  obtain ⟨separators, text', separated, readable', filled⟩ := filled_tokenise ran
  obtain rfl : text = text' := Except.ok.inj (readable.symm.trans readable')
  exact ⟨separators, separated, filled⟩

theorem exists_of_finishLine {instruction : Instruction} {operands : Operands}
    {line : List Zscii} {terminator : Zscii} {next : Continuation} {after : Machine η}
    (ran : finishLine instruction operands line terminator machine = .ok next after) :
    ∃ lined noted, update (Update.writeLine operands.first.toNat line) machine = .ok () lined ∧
      noteWords operands.first.toNat operands.second.toNat lined = .ok () noted ∧
      storeTerminator instruction terminator noted = .ok () after ∧
      next = .goto instruction.next := by
  rw [finishLine_eq] at ran
  obtain ⟨_, lined, wrote, ran⟩ := exists_of_bind_ok ran
  obtain ⟨_, noted, words, ran⟩ := exists_of_bind_ok ran
  obtain ⟨_, stored, ended, ran⟩ := exists_of_bind_ok ran
  cases ran
  exact ⟨lined, noted, wrote, words, ended, rfl⟩

/-- What completing a read of a line may write over, from the memory as it is at each stage: the
line's part of the text buffer; then the parse buffer, if there is one; then, from version 5 on,
the variable for the result. -/
def MayOverwrite (instruction : Instruction) (operands : Operands) (line : List Zscii)
    (machine : Machine η) (byte : Nat) : Prop :=
  let buffer := operands.first.toNat
  let parseBuffer := operands.second.toNat
  byte ∈ machine.story.lineRegion buffer ∨
    ∃ lined, update (Update.writeLine buffer line) machine = .ok () lined ∧
      (parseBuffer ≠ 0 ∧
          byte ∈ Region.mk (parseBuffer + 1) (lined.story.parseRegion parseBuffer).stop ∨
        ∃ noted, noteWords buffer parseBuffer lined = .ok () noted ∧ .v5 ≤ noted.version ∧
          ∃ region ∈ noted.story.resultRegion? instruction, byte ∈ region)

theorem wroteOnly_finishLine (instruction : Instruction) (operands : Operands) (line : List Zscii)
    (terminator : Zscii) (machine : Machine η) :
    machine.WroteOnly (MayOverwrite instruction operands line machine)
      (finalState (finishLine instruction operands line terminator machine)) := by
  rw [finishLine_eq]
  refine relates_bind (wroteOnly_update ((Update.changed_writeLine _ line _).mono ?_)) ?_
  · exact fun _ member => .inl member
  intro _ lined wrote
  refine relates_bind ((wroteOnly_noteWords _ _ lined).mono ?_) ?_
  · exact fun _ member => .inr ⟨lined, wrote, .inl member⟩
  intro _ noted words
  refine relates_bind ((wroteOnly_storeTerminator instruction terminator noted).mono ?_) ?_
  · exact fun _ member => .inr ⟨lined, wrote, .inr ⟨noted, words, member⟩⟩
  · exact fun _ stored _ => .of_eq _ rfl

/-- Completing a read of a line, also where it fails, writes to memory only where it may. Where it
works, the line was cut to what the text buffer has room for, the words that were noted are those
of that text, and from version 5 on the variable for the result has what ended the line. The text
is still in its buffer in the end if the rest was not written over it. -/
theorem finishLine_fills_buffers (instruction : Instruction) (operands : Operands)
    (line : List Zscii) (terminator : Zscii) (machine : Machine η) :
    let buffer := operands.first.toNat
    let parseBuffer := operands.second.toNat
    let textBuffer : Region := ⟨buffer, (machine.story.lineRegion buffer).stop⟩
    let result := finishLine instruction operands line terminator machine
    Story.ChangedOnly (MayOverwrite instruction operands line machine) machine.story
      (finalState result).story ∧
    ∀ next after, result = .ok next after →
      (∀ code ∈ line, machine.version.AllowsInLine code) →
      ∃ lined noted, update (Update.writeLine buffer line) machine = .ok () lined ∧
        noteWords buffer parseBuffer lined = .ok () noted ∧ next = .goto instruction.next ∧
        let text := line.take (machine.story.lineCapacity buffer)
        lined.story.bufferText buffer = .ok text ∧
        (parseBuffer ≠ 0 →
          let dictionary := (lined.story.memory.headerWord .dictionary).toNat
          ∃ separators, lined.story.separators dictionary = .ok separators ∧
            Story.Filled dictionary false parseBuffer
              (lined.story.memory.byteAt parseBuffer).toNat (Word.split text separators)
              lined.story noted.story) ∧
        (.v5 ≤ machine.version → noted.GotResult instruction terminator after) ∧
        ((parseBuffer ≠ 0 → (lined.story.parseRegion parseBuffer).Apart textBuffer) →
          (.v5 ≤ machine.version →
            ∀ region ∈ noted.story.resultRegion? instruction, region.Apart textBuffer) →
          after.story.memory.Holds (buffer + 1) (machine.version.lineBytes text) ∧
          after.story.bufferText buffer = .ok text) := by
  intro buffer parseBuffer textBuffer result
  refine ⟨wroteOnly_finishLine instruction operands line terminator machine, ?_⟩
  intro next after ran allowed
  obtain ⟨lined, noted, wrote, words, ended, rfl⟩ := exists_of_finishLine ran
  refine ⟨lined, noted, wrote, words, rfl, ?_⟩
  obtain ⟨story, written, rfl⟩ := exists_of_update_ok wrote
  obtain ⟨sized, held⟩ := Update.writeLine_holds written
  have lineChanged :
      Story.ChangedOnly (· ∈ machine.story.lineRegion buffer) machine.story story := by
    have changed := Update.changed_writeLine buffer line machine.story
    rwa [written] at changed
  have wordsChanged := (wroteOnly_noteWords buffer parseBuffer _).of_ok words
  have resultChanged := (wroteOnly_storeTerminator instruction terminator noted).of_ok ended
  have version : noted.version = machine.version :=
    wordsChanged.version.trans lineChanged.version
  have readable := (Story.line_kept allowed sized lineChanged held (.refl _ story)).2
  refine ⟨readable, fun used => filled_noteWords words used readable,
    fun late => gotResult_storeTerminator (version ▸ late) ended, ?_⟩
  intro wordsApart resultApart
  have wordsElsewhere : Story.ChangedOnly (· ∉ textBuffer) story noted.story := by
    refine wordsChanged.mono fun byte touched member => (wordsApart touched.1).not_mem member ?_
    have written := touched.2
    simp only [Region.mem_iff, Story.parseRegion] at written ⊢
    omega
  have resultElsewhere : Story.ChangedOnly (· ∉ textBuffer) noted.story after.story := by
    refine resultChanged.mono ?_
    rintro byte ⟨late, region, stored, touched⟩ member
    exact (resultApart (version ▸ late) region stored).not_mem member touched
  exact Story.line_kept allowed sized lineChanged held (wordsElsewhere.trans resultElsewhere)

def readCommand : Instruction where
  address := 0x40
  opcode := .ofByte .v5 0xe4
  operands := [⟨.smallConstant, 0x50⟩, ⟨.smallConstant, 0x60⟩]
  store := some ⟨0x44, 16⟩
  branch := none
  next := 0x45

/-- A story with room for four characters at 0x50 and for two words at 0x60, global variables at
0x6c, and a dictionary at 0x70 that has the word b and the separator ",". -/
def readingImage : Machine MemoryStore :=
  .ofBytes .v5 [(9, 0x70), (0xd, 0x6c), (0x50, 4), (0x60, 2), (0x70, 1), (0x71, 44), (0x72, 6),
    (0x74, 1), (0x75, 0x1c), (0x76, 0xa5), (0x77, 0x14), (0x78, 0xa5), (0x79, 0x94), (0x7a, 0xa5)]

theorem finishLine_fills_buffers_readingImage :
    ∃ next after, finishLine readCommand ⟨[0x50, 0x60]⟩ [98, 44, 99, 32, 100] 13 readingImage =
        .ok next after ∧ next = .goto 0x45 ∧
      after.story.memory.Holds 0x51 [4, 98, 44, 99, 32] ∧
      after.story.bufferText 0x50 = .ok [98, 44, 99, 32] ∧
      after.story.memory.readWord 0x6c = .ok 13 := by
  obtain ⟨-, works⟩ :=
    finishLine_fills_buffers readCommand ⟨[0x50, 0x60]⟩ [98, 44, 99, 32, 100] 13 readingImage
  have fine : failure? (finishLine readCommand ⟨[0x50, 0x60]⟩ [98, 44, 99, 32, 100] 13
      readingImage) = none := by decide +kernel
  cases ran : finishLine readCommand ⟨[0x50, 0x60]⟩ [98, 44, 99, 32, 100] 13 readingImage with
  | error error after =>
    rw [ran] at fine
    cases fine
  | ok next after =>
    have typed : List.all [98, 44, 99, 32, 100] isLineCharacter = true := by decide
    obtain ⟨lined, noted, wrote, words, goes, -, -, result, text⟩ :=
      works next after ran fun code member => .inl (List.all_eq_true.mp typed code member)
    obtain rfl : finalState (update (Update.writeLine 0x50 [98, 44, 99, 32, 100]) readingImage) =
        lined := congrArg finalState wrote
    obtain rfl : finalState (noteWords 0x50 0x60 _) = noted := congrArg finalState words
    obtain ⟨held, readable⟩ := text (by decide +kernel) (by decide +kernel)
    have capacity : readingImage.story.lineCapacity (Operands.first ⟨[0x50, 0x60]⟩).toNat = 4 := by
      decide +kernel
    rw [capacity] at held readable
    have stored := result (by decide) ⟨0x44, 16⟩ rfl
    have place : (finalState (noteWords 0x50 0x60 (finalState (update
        (Update.writeLine 0x50 [98, 44, 99, 32, 100]) readingImage)))).story.globalAddress 16 =
        0x6c := by decide +kernel
    exact ⟨next, after, rfl, goes, held, readable, place ▸ stored⟩

end Engine

end StoryMachine
