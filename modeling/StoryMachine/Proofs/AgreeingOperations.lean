import StoryMachine.Proofs.Agreement

/-! Machines that are alike carry out an instruction alike, and take the same step. -/

namespace StoryMachine

variable {η₁ η₂ α : Type} {relation : Outside η₁ → Outside η₂ → Prop}

namespace Engine

section Inside

theorem capture_eq {machine : Machine η₁} {other : Machine η₂} (same : machine.SameInside other)
    (address : Nat) : machine.capture address = other.capture address := by
  rw [Machine.capture, same.story, same.stack]
  rfl

theorem agrees_restoreSnapshot (snapshot : Snapshot) :
    Agrees relation (restoreSnapshot snapshot : Engine η₁ Bool) (restoreSnapshot snapshot) := by
  refine agrees_get_bind fun machine other agree => ?_
  unfold Machine.restore?
  rw [agree.story]
  by_cases same : snapshot.story = other.story.memory.storyId
  · simp only [same, if_true]
    cases other.story.memory.replace snapshot.image with
    | error error => exact agrees_pure false
    | ok restored =>
      refine Agrees.bind (agrees_set ?_) fun _ => agrees_pure true
      exact { agree with
        story := rfl
        stack := rfl
        captures := rfl
        pending := rfl }
  · simp only [same, if_false]
    exact agrees_pure false

theorem agrees_saveUndo (address : Nat) :
    Agrees relation (saveUndo address : Engine η₁ Unit) (saveUndo address) := by
  refine agrees_modify fun machine other agree => ?_
  have captured := capture_eq agree.toSameInside address
  exact { agree with undo := by rw [agree.undo, captured] }

theorem agrees_restoreUndo :
    Agrees relation (restoreUndo : Engine η₁ (Option Nat)) restoreUndo := by
  refine agrees_get_bind fun machine other agree => ?_
  rw [agree.undo]
  cases other.undo.pop? with
  | none => exact agrees_pure none
  | some entry =>
    refine Agrees.bind (agrees_set ?_) fun _ => ?_
    · exact { agree with undo := rfl }
    · exact (agrees_restoreSnapshot entry.1).bind fun _ => agrees_pure _

theorem agrees_finishSave (instruction : Instruction) (success : Bool) :
    Agrees relation (finishSave instruction success : Engine η₁ Continuation)
      (finishSave instruction success) :=
  (agrees_branchOn instruction success).ite (agrees_finishWith instruction _)

/-- What follows on going back to a snapshot, or on finding none. -/
theorem agrees_resume {first₁ : Engine η₁ (Option Nat)} {first₂ : Engine η₂ (Option Nat)}
    {missed₁ : Engine η₁ Continuation} {missed₂ : Engine η₂ Continuation}
    (here : Agrees relation first₁ first₂) (missed : Agrees relation missed₁ missed₂) :
    Agrees relation (do
      match ← first₁ with
      | some address => resumeAfter address
      | none => missed₁) (do
      match ← first₂ with
      | some address => resumeAfter address
      | none => missed₂) := by
  refine here.bind fun found => ?_
  cases found with
  | none => exact missed
  | some address =>
    refine (agrees_query _).bind fun instruction => ?_
    exact (agrees_branchOn instruction true).ite (agrees_finishWith instruction 2)

/-- What an operation does with its operands. -/
theorem agrees_evaluated {instruction : Instruction} {required : Nat}
    {next₁ : Operands → Engine η₁ α} {next₂ : Operands → Engine η₂ α}
    (there : ∀ operands, Agrees relation (next₁ operands) (next₂ operands)) :
    Agrees relation (evaluate instruction required >>= next₁)
      (evaluate instruction required >>= next₂) :=
  (agrees_evaluate instruction required).bind there

/-- An operation that stores something about the story. -/
theorem agrees_store (read : Story → Except Error α) (instruction : Instruction)
    (word : α → UInt16) :
    Agrees relation (query read >>= fun value => finishWith instruction (word value) :
      Engine η₁ Continuation) (query read >>= fun value => finishWith instruction (word value)) :=
  (agrees_query read).bind fun value => agrees_finishWith instruction (word value)

/-- An operation that changes the story and goes on. -/
theorem agrees_change (change : Update α) (instruction : Instruction) :
    Agrees relation (update change >>= fun _ => proceed instruction : Engine η₁ Continuation)
      (update change >>= fun _ => proceed instruction) :=
  (agrees_update change).bind fun _ => agrees_proceed instruction

theorem agrees_windowOperand (operands : Operands) (index : Nat) :
    Agrees relation (windowOperand operands index : Engine η₁ Int16)
      (windowOperand operands index) := by
  unfold windowOperand
  cases operands.get? index with
  | some value => exact agrees_query _
  | none => exact agrees_pure _

theorem agrees_windowOperandV6 (operands : Operands) (index : Nat) :
    Agrees relation (windowOperandV6 operands index : Engine η₁ Int16)
      (windowOperandV6 operands index) :=
  agrees_version.bind fun _ => (agrees_windowOperand operands index).ite (agrees_pure _)

theorem agrees_popMany (count : Nat) :
    Agrees relation (popMany count : Engine η₁ Unit) (popMany count) := by
  induction count with
  | zero => exact agrees_pure ()
  | succ count ih => exact (agrees_readVariable 0).bind fun _ => ih

theorem agrees_pull (instruction : Instruction) :
    Agrees relation (pull instruction : Engine η₁ Continuation) (pull instruction) := by
  refine agrees_version.bind fun version => ?_
  refine Agrees.ite (agrees_evaluated fun operands => ?_) (agrees_evaluated fun operands => ?_)
  · cases operands.get? 0 with
    | some table =>
      exact (agrees_update _).bind fun value => agrees_finishWith instruction value
    | none => exact (agrees_readVariable 0).bind fun value => agrees_finishWith instruction value
  · refine (agrees_readVariable 0).bind fun value => ?_
    exact (agrees_replaceVariable _ value).bind fun _ => agrees_proceed instruction

theorem agrees_popStack (instruction : Instruction) :
    Agrees relation (popStack instruction : Engine η₁ Continuation) (popStack instruction) := by
  refine agrees_evaluated fun operands => ?_
  cases operands.get? 1 with
  | some table => exact agrees_change _ instruction
  | none => exact (agrees_popMany _).bind fun _ => agrees_proceed instruction

theorem agrees_follow (next : Continuation) :
    Agrees relation (follow next : Engine η₁ Unit) (follow next) := by
  cases next with
  | goto address => exact agrees_setPc address
  | await | quit => exact agrees_modify fun _ _ agree => { agree with status := rfl }
  | resume => exact agrees_throw _

theorem agrees_noteClick (value : InputValue) :
    Agrees relation (noteClick value : Engine η₁ Unit) (noteClick value) := by
  cases value with
  | mouseClick column row => exact (agrees_update _).bind fun _ => agrees_update _
  | character | special => exact agrees_pure ()

theorem agrees_start : Agrees relation (start : Engine η₁ Unit) start := by
  have captured (_ : Unit) : Agrees relation (do
      let top ← queryStack (·.top)
      modify fun machine =>
        { machine with initial := some (machine.capture top.pc), status := .running } :
      Engine η₁ Unit) (do
      let top ← queryStack (·.top)
      modify fun machine =>
        { machine with initial := some (machine.capture top.pc), status := .running }) := by
    refine (agrees_queryStack _).bind fun top => agrees_modify fun machine other agree => ?_
    have captured := capture_eq agree.toSameInside top.pc
    exact { agree with initial := by rw [captured], status := rfl }
  refine Agrees.bind (agrees_modify fun machine other agree => ?_) fun _ => ?_
  · have described : machine.story.memory.describeInterpreter machine.version machine.config =
        other.story.memory.describeInterpreter other.version other.config := by
      rw [Machine.version, agree.story, ← agree.config]
      rfl
    dsimp only
    rw [described, agree.story]
    generalize other.story.memory.describeInterpreter other.version other.config = memory
    exact { agree with story := rfl, stack := rfl }
  · refine agrees_get_bind fun machine other agree => ?_
    rw [Machine.version, agree.story]
    refine Agrees.ite ?_ ?_
    · exact (agrees_call _ _ _ _).bind fun _ => captured ()
    · refine Agrees.bind (agrees_set ?_) captured
      exact { agree with story := rfl, stack := by rw [agree.stack] }

end Inside

variable [Host η₁] [Host η₂] [lasting : Outside.Lasting relation]

section Output

theorem agrees_reportAll (errors : List Error) :
    Agrees relation (reportAll errors : Engine η₁ Unit) (reportAll errors) :=
  Agrees.forM agrees_report errors

theorem agrees_decodeWords (words : List UInt16) :
    Agrees relation (decodeWords words : Engine η₁ (List Zscii)) (decodeWords words) := by
  refine (agrees_query _).bind fun decoded => ?_
  exact (agrees_reportAll decoded.warnings).bind fun _ => agrees_pure decoded.text

theorem agrees_decodeAt (address : Nat) :
    Agrees relation (decodeAt address : Engine η₁ (List Zscii)) (decodeAt address) := by
  refine (agrees_query _).bind fun decoded => ?_
  exact (agrees_reportAll decoded.warnings).bind fun _ => agrees_pure decoded.text

theorem agrees_emit {shown : Notice} (plain : (HostCall.notify shown).error? = none)
    (text : List Zscii) :
    Agrees relation (emit shown text : Engine η₁ Unit) (emit shown text) := by
  refine agrees_get_bind fun machine other agree => ?_
  rw [agree.captures]
  cases other.captures with
  | nil =>
    rw [agree.screen, agree.story]
    refine (agrees_notify plain).ite_bind fun _ => ?_
    exact (agrees_notify rfl).ite (agrees_pure ())
  | cons capture outer => exact agrees_set { agree with captures := rfl }

theorem agrees_print (text : List Zscii) :
    Agrees relation (print text : Engine η₁ Unit) (print text) :=
  agrees_emit rfl text

theorem agrees_newLine : Agrees relation (newLine : Engine η₁ Unit) newLine :=
  agrees_emit rfl _

theorem agrees_selectStream (stream : Int16) (table : Option Nat) :
    Agrees relation (selectStream stream table : Engine η₁ Unit) (selectStream stream table) := by
  have told (_ : Unit) : Agrees relation (notify (.outputStream stream) : Engine η₁ Unit)
      (notify (.outputStream stream)) :=
    agrees_notify rfl
  have opened : Agrees relation (openCapture table : Engine η₁ Unit) (openCapture table) := by
    cases table with
    | none => exact agrees_throw _
    | some table =>
      refine agrees_get_bind fun machine other agree => ?_
      rw [agree.captures]
      refine (agrees_throw _).ite_bind fun _ => ?_
      exact agrees_modify fun _ _ agree => { agree with captures := by rw [agree.captures] }
  have closed : Agrees relation (closeCapture : Engine η₁ Unit) closeCapture := by
    refine agrees_get_bind fun machine other agree => ?_
    rw [agree.captures]
    cases other.captures with
    | nil => exact agrees_pure ()
    | cons capture outer =>
      refine Agrees.bind (agrees_set ?_) fun _ => agrees_update _
      exact { agree with captures := rfl }
  unfold selectStream
  split
  · exact Agrees.bind (agrees_modify fun _ _ agree => { agree with screen := rfl }) told
  · exact Agrees.bind (agrees_modify fun _ _ agree => { agree with screen := rfl }) told
  · exact (agrees_update _).bind told
  · exact (agrees_update _).bind told
  · exact opened.bind told
  · exact closed.bind told
  · exact Agrees.bind (agrees_modify fun _ _ agree => { agree with commandScript := rfl }) told
  · exact Agrees.bind (agrees_modify fun _ _ agree => { agree with commandScript := rfl }) told
  · exact (agrees_throw _).bind told

theorem agrees_showStatus : Agrees relation (showStatus : Engine η₁ Unit) showStatus := by
  have rest (left : List Zscii) : Agrees relation (do
      let first ← peekVariable (firstGlobal + 1)
      let second ← peekVariable (firstGlobal + 2)
      let isTime := (← get).story.memory.hasFlag1 EarlyFlag.statusLineType
      let right := if isTime then renderTime first second else renderScore first second
      notify (.showStatus left (Zscii.ofString right)) : Engine η₁ Unit) (do
      let first ← peekVariable (firstGlobal + 1)
      let second ← peekVariable (firstGlobal + 2)
      let isTime := (← get).story.memory.hasFlag1 EarlyFlag.statusLineType
      let right := if isTime then renderTime first second else renderScore first second
      notify (.showStatus left (Zscii.ofString right))) := by
    refine (agrees_peekVariable _).bind fun first => ?_
    refine (agrees_peekVariable _).bind fun second => ?_
    refine agrees_get_bind fun machine other agree => ?_
    rw [agree.story]
    exact agrees_notify rfl
  refine (agrees_peekVariable _).bind fun object => ?_
  refine Agrees.ite ((agrees_pure []).bind rest) ?_
  refine (agrees_query _).bind fun name => ?_
  exact (agrees_decodeWords name).bind rest

theorem agrees_printFollowing (instruction : Instruction) :
    Agrees relation (printFollowing instruction : Engine η₁ Unit) (printFollowing instruction) := by
  refine (agrees_query _).bind fun words => ?_
  exact (agrees_decodeWords words).bind fun text => agrees_print text

theorem agrees_printRows (width skip : Nat) (cursor : UInt16 × UInt16)
    (address index count : Nat) :
    Agrees relation (printRows width skip cursor address index count : Engine η₁ Unit)
      (printRows width skip cursor address index count) := by
  induction count generalizing address index with
  | zero => exact agrees_pure ()
  | succ count ih =>
    have row (_ : Unit) : Agrees relation (do
        let row ← query (·.memory.readBytes address width)
        print (row.map UInt8.toUInt16)
        printRows width skip cursor (address + width + skip) (index + 1) count : Engine η₁ Unit) (do
        let row ← query (·.memory.readBytes address width)
        print (row.map UInt8.toUInt16)
        printRows width skip cursor (address + width + skip) (index + 1) count) :=
      (agrees_query _).bind fun _ => (agrees_print _).bind fun _ => ih _ _
    unfold printRows
    refine Agrees.ite ?_ (row ())
    refine agrees_get_bind fun machine other agree => ?_
    rw [agree.captures]
    exact ((agrees_notify rfl).bind row).ite (agrees_newLine.bind row)

theorem agrees_tokenise (textBuffer parseBuffer dictionary : Nat) (skipUnknown : Bool) :
    Agrees relation (tokenise textBuffer parseBuffer dictionary skipUnknown : Engine η₁ Unit)
      (tokenise textBuffer parseBuffer dictionary skipUnknown) := by
  refine (agrees_query _).bind fun separators => ?_
  refine (agrees_query _).bind fun text => ?_
  refine (agrees_query _).bind fun capacity => ?_
  refine (agrees_update _).bind fun _ => ?_
  exact (agrees_report _).ite_bind fun _ => agrees_update _

end Output

section Random

theorem agrees_random (range : Int16) :
    Agrees relation (random range : Engine η₁ UInt16) (random range) := by
  intro machine other agree
  obtain ⟨same, drawn⟩ := lasting.call agree.outside .draw rfl
  have seeded (value : UInt64) := (lasting.call agree.outside (.seed value) rfl).2
  unfold random
  rw [agree.randomMode]
  dsimp only
  by_cases positive : 0 < range
  · simp only [positive, if_true, Generator.below, Generator.generate]
    cases other.randomMode with
    | counting limit next => exact .ok _ { agree with randomMode := rfl }
    | random =>
      have value : (RandomSource.draw machine.host).1 = (RandomSource.draw other.host).1 :=
        HostReply.number.inj same
      dsimp only
      rw [value]
      exact .ok _ { agree with randomMode := rfl, outside := drawn }
  · simp only [positive, if_false, Generator.seed]
    split
    · exact .ok _ { agree with randomMode := rfl }
    · exact .ok _ { agree with randomMode := rfl, outside := seeded _ }

end Random

section Saving

theorem agrees_saveGame (address : Nat) :
    Agrees relation (saveGame address : Engine η₁ Bool) (saveGame address) := by
  refine agrees_get_bind fun machine other agree => ?_
  rw [capture_eq agree.toSameInside]
  exact agrees_ask (.save _) rfl (fun _ _ => HostReply.saved.inj) (fun _ => rfl) fun _ => rfl

theorem agrees_restoreGame :
    Agrees relation (restoreGame : Engine η₁ (Option Nat)) restoreGame := by
  have asked : Agrees relation (ask SaveStore.restore : Engine η₁ (Option Snapshot))
      (ask SaveStore.restore) :=
    agrees_ask .restore rfl (fun _ _ => HostReply.snapshot.inj) (fun _ => rfl) fun _ => rfl
  refine asked.bind fun found => ?_
  cases found with
  | none => exact agrees_pure none
  | some snapshot => exact (agrees_restoreSnapshot snapshot).bind fun _ => agrees_pure _

theorem agrees_restart : Agrees relation (restart : Engine η₁ Continuation) restart := by
  refine agrees_get_bind fun machine other agree => ?_
  rw [agree.initial, agree.story]
  cases other.initial with
  | none => exact agrees_throw _
  | some snapshot =>
    refine (agrees_update _).bind fun _ => ?_
    refine (agrees_update _).bind fun _ => ?_
    refine Agrees.bind (agrees_modify fun machine other agree => ?_) fun _ => ?_
    · have seed : machine.config.randomSeed = other.config.randomSeed := by
        rw [← agree.config]
      have seeded := (lasting.call agree.outside (.seed other.config.randomSeed) rfl).2
      dsimp only
      rw [seed]
      exact { agree with stack := rfl, captures := rfl, randomMode := rfl, outside := seeded }
    · refine (agrees_notify rfl).bind fun _ => ?_
      exact (agrees_queryStack _).bind fun top => agrees_pure _

end Saving

section Operations

/-- An operation that tells the presentation something and goes on. -/
theorem agrees_tell {notice : Notice} (plain : (HostCall.notify notice).error? = none)
    (instruction : Instruction) :
    Agrees relation (notify notice >>= fun _ => proceed instruction : Engine η₁ Continuation)
      (notify notice >>= fun _ => proceed instruction) :=
  (agrees_notify plain).bind fun _ => agrees_proceed instruction

theorem agrees_printForm (instruction : Instruction) :
    Agrees relation (printForm instruction : Engine η₁ Continuation) (printForm instruction) := by
  have line (text : List Zscii) (_ : PUnit) : Agrees relation (do
      print text
      newLine
      pure (ForInStep.yield PUnit.unit) : Engine η₁ (ForInStep PUnit)) (do
      print text
      newLine
      pure (ForInStep.yield PUnit.unit)) :=
    (agrees_print text).bind fun _ => agrees_newLine.bind fun _ => agrees_pure _
  refine agrees_evaluated fun operands => ?_
  refine agrees_get_bind fun machine other agree => ?_
  rw [agree.story]
  refine (Agrees.forIn line _ _).bind fun _ => ?_
  cases (other.story.memory.formLines operands.first.toNat).2 with
  | some error => exact (agrees_throw error).bind fun _ => agrees_proceed instruction
  | none => exact agrees_proceed instruction

theorem agrees_readLine (instruction : Instruction) :
    Agrees relation (readLine instruction : Engine η₁ Continuation) (readLine instruction) := by
  refine agrees_evaluated fun operands => ?_
  refine agrees_version.bind fun version => ?_
  refine agrees_showStatus.ite_bind fun _ => ?_
  refine (agrees_query _).bind fun capacity => ?_
  refine (agrees_query _).bind fun preloaded => ?_
  refine (agrees_query _).bind fun terminators => ?_
  refine agrees_get_bind fun machine other agree => ?_
  rw [agree.story]
  exact agrees_await instruction operands _

theorem agrees_finishLine (instruction : Instruction) (operands : Operands) (line : List Zscii)
    (terminator : Zscii) :
    Agrees relation (finishLine instruction operands line terminator : Engine η₁ Continuation)
      (finishLine instruction operands line terminator) := by
  have stored (_ : Unit) : Agrees relation (do
      if .v5 ≤ (← version) then
        storeResult instruction terminator
      proceed instruction : Engine η₁ Continuation) (do
      if .v5 ≤ (← version) then
        storeResult instruction terminator
      proceed instruction) := by
    refine agrees_version.bind fun version => ?_
    exact (agrees_storeResult instruction terminator).ite_bind fun _ => agrees_proceed instruction
  refine (agrees_update _).bind fun _ => ?_
  refine Agrees.ite (agrees_get_bind fun machine other agree => ?_) (stored ())
  rw [agree.story]
  exact (agrees_tokenise _ _ _ _).bind stored

theorem agrees_soundEffect (instruction : Instruction) :
    Agrees relation (soundEffect instruction : Engine η₁ Continuation)
      (soundEffect instruction) := by
  refine agrees_evaluated fun operands => ?_
  refine Agrees.ite (agrees_tell rfl instruction) ?_
  refine (agrees_throw _).ite_bind fun _ => ?_
  refine agrees_get_bind fun machine other agree => ?_
  rw [agree.story]
  exact agrees_tell rfl instruction

theorem agrees_pictureData (instruction : Instruction) :
    Agrees relation (pictureData instruction : Engine η₁ Continuation)
      (pictureData instruction) := by
  refine agrees_evaluated fun operands => ?_
  have asked : Agrees relation
      (ask (Presentation.pictureData operands.first) : Engine η₁ (Option (UInt16 × UInt16)))
      (ask (Presentation.pictureData operands.first)) :=
    agrees_ask (.pictureData _) rfl (fun _ _ => HostReply.picture.inj) (fun _ => rfl) fun _ => rfl
  refine asked.bind fun size => ?_
  cases size with
  | some size => exact (agrees_update _).bind fun _ => agrees_branchOn instruction true
  | none => exact agrees_branchOn instruction false

theorem agrees_makeMenu (instruction : Instruction) :
    Agrees relation (makeMenu instruction : Engine η₁ Continuation) (makeMenu instruction) := by
  refine agrees_evaluated fun operands => ?_
  have made (items : List (List Zscii)) : Agrees relation (do
      let made ← ask (Presentation.makeMenu operands.first items)
      branchOn instruction made : Engine η₁ Continuation) (do
      let made ← ask (Presentation.makeMenu operands.first items)
      branchOn instruction made) :=
    (agrees_ask (.makeMenu _ items) rfl (fun _ _ => HostReply.menu.inj) (fun _ => rfl)
      fun _ => rfl).bind fun made => agrees_branchOn instruction made
  refine (agrees_throw _).ite_bind fun _ => ?_
  exact ((agrees_pure []).bind made).ite ((agrees_query _).bind made)

theorem agrees_perform (instruction : Instruction) (operation : Operation) :
    Agrees relation (perform instruction operation : Engine η₁ Continuation)
      (perform instruction operation) := by
  unfold perform
  cases operation with
  | je | jl | jg | test | jz =>
    exact agrees_evaluated fun _ => agrees_branchOn instruction _
  | decChk | incChk =>
    refine agrees_evaluated fun operands => ?_
    refine (agrees_peekVariable _).bind fun value => ?_
    exact (agrees_replaceVariable _ _).bind fun _ => agrees_branchOn instruction _
  | jin | testAttr =>
    exact agrees_evaluated fun _ =>
      (agrees_query _).bind fun _ => agrees_branchOn instruction _
  | bitOr | bitAnd | add | sub | mul | bitNot | bitNotVar | checkUnicode | bufferScreen =>
    exact agrees_evaluated fun _ => agrees_finishWith instruction _
  | setAttr | clearAttr | insertObj | removeObj | storew | storeb | putProp | encodeText
  | copyTable =>
    exact agrees_evaluated fun _ => agrees_change _ instruction
  | store =>
    exact agrees_evaluated fun _ =>
      (agrees_replaceVariable _ _).bind fun _ => agrees_proceed instruction
  | loadw | loadb | getProp | getPropAddr | getNextProp | getParent | getPropLen =>
    exact agrees_evaluated fun _ => agrees_store _ instruction _
  | div | mod | logShift | artShift =>
    exact agrees_evaluated fun _ =>
      (agrees_throw _).ite_bind fun _ => agrees_finishWith instruction _
  | call1s | call1n | call2s | call2n | callVs | callVs2 | callVn | callVn2 =>
    exact agrees_evaluated fun _ => agrees_callPacked instruction _ _
  | throwTo => exact agrees_evaluated fun _ => agrees_throwTo _ _
  | getSibling | getChild | scanTable =>
    refine agrees_evaluated fun operands => ?_
    refine (agrees_query _).bind fun found => ?_
    exact (agrees_storeResult instruction _).bind fun _ => agrees_branchOn instruction _
  | inc | dec =>
    refine agrees_evaluated fun operands => ?_
    refine (agrees_peekVariable _).bind fun value => ?_
    exact (agrees_replaceVariable _ _).bind fun _ => agrees_proceed instruction
  | load =>
    exact agrees_evaluated fun _ =>
      (agrees_peekVariable _).bind fun _ => agrees_finishWith instruction _
  | printAddr | printPaddr =>
    refine agrees_evaluated fun operands => ?_
    refine agrees_get_bind fun machine other agree => ?_
    rw [agree.story]
    refine (agrees_decodeAt _).bind fun text => ?_
    exact (agrees_print text).bind fun _ => agrees_proceed instruction
  | printObj =>
    refine agrees_evaluated fun operands => ?_
    refine (agrees_query _).bind fun name => ?_
    refine (agrees_decodeWords name).bind fun text => ?_
    exact (agrees_print text).bind fun _ => agrees_proceed instruction
  | ret => exact agrees_evaluated fun _ => agrees_returnValue _
  | jump => exact agrees_evaluated fun _ => agrees_pure _
  | rtrue => exact agrees_returnValue 1
  | rfalse => exact agrees_returnValue 0
  | print => exact (agrees_printFollowing instruction).bind fun _ => agrees_proceed instruction
  | printRet =>
    refine (agrees_printFollowing instruction).bind fun _ => ?_
    exact agrees_newLine.bind fun _ => agrees_returnValue 1
  | nop => exact agrees_proceed instruction
  | retPopped => exact (agrees_readVariable 0).bind fun _ => agrees_returnValue _
  | pop => exact (agrees_readVariable 0).bind fun _ => agrees_proceed instruction
  | catchFrame =>
    refine agrees_get_bind fun machine other agree => ?_
    rw [agree.stack]
    exact agrees_finishWith instruction _
  | quit => exact agrees_pure _
  | newLine => exact agrees_newLine.bind fun _ => agrees_proceed instruction
  | showStatus =>
    refine agrees_version.bind fun version => ?_
    exact agrees_showStatus.ite_bind fun _ => agrees_proceed instruction
  | verify =>
    refine agrees_get_bind fun machine other agree => ?_
    rw [agree.story]
    exact agrees_branchOn instruction _
  | piracy => exact agrees_branchOn instruction true
  | read => exact agrees_readLine instruction
  | readChar =>
    refine agrees_evaluated fun operands => ?_
    refine agrees_get_bind fun machine other agree => ?_
    rw [agree.story]
    exact agrees_await instruction operands _
  | printChar | printNum | printUnicode =>
    exact agrees_evaluated fun _ => (agrees_print _).bind fun _ => agrees_proceed instruction
  | random =>
    refine agrees_evaluated fun operands => ?_
    exact (agrees_random _).bind fun value => agrees_finishWith instruction value
  | push =>
    exact agrees_evaluated fun _ => (agrees_push _).bind fun _ => agrees_proceed instruction
  | pull => exact agrees_pull instruction
  | popStack => exact agrees_popStack instruction
  | pushStack =>
    exact agrees_evaluated fun _ =>
      (agrees_update _).bind fun pushed => agrees_branchOn instruction pushed
  | splitWindow | eraseLine | setTextStyle | bufferMode | drawPicture | erasePicture =>
    exact agrees_evaluated fun _ => agrees_tell rfl instruction
  | setWindow | eraseWindow | mouseWindow | moveWindow | scrollWindow | pictureTable =>
    exact agrees_evaluated fun _ => (agrees_query _).bind fun _ => agrees_tell rfl instruction
  | putWindProp =>
    exact agrees_evaluated fun _ => (agrees_query _).bind fun _ =>
      (agrees_query _).bind fun _ => agrees_tell rfl instruction
  | windowSize | windowStyle =>
    exact agrees_evaluated fun _ => (agrees_query _).bind fun _ =>
      (agrees_throw _).ite_bind fun _ => agrees_tell rfl instruction
  | setColour =>
    refine agrees_evaluated fun operands => ?_
    refine (agrees_query _).bind fun foreground => ?_
    refine (agrees_query _).bind fun background => ?_
    exact (agrees_windowOperandV6 operands 2).bind fun _ => agrees_tell rfl instruction
  | setCursor | setTrueColour =>
    exact agrees_evaluated fun operands =>
      (agrees_windowOperandV6 operands 2).bind fun _ => agrees_tell rfl instruction
  | setMargins =>
    exact agrees_evaluated fun operands =>
      (agrees_windowOperand operands 2).bind fun _ => agrees_tell rfl instruction
  | getCursor =>
    refine agrees_evaluated fun operands => ?_
    refine Agrees.bind (agrees_ask .cursor rfl (fun _ _ => HostReply.cursor.inj) (fun _ => rfl)
      fun _ => rfl) fun cursor => ?_
    exact agrees_change _ instruction
  | readMouse =>
    refine agrees_evaluated fun operands => ?_
    refine Agrees.bind (agrees_ask .readMouse rfl (fun _ _ => HostReply.mouse.inj) (fun _ => rfl)
      fun _ => rfl) fun mouse => ?_
    exact agrees_change _ instruction
  | setFont =>
    refine agrees_evaluated fun operands => ?_
    refine Agrees.bind (agrees_ask (.setFont _) rfl (fun _ _ => HostReply.font.inj) (fun _ => rfl)
      fun _ => rfl) fun previous => ?_
    exact agrees_finishWith instruction previous
  | getWindProp =>
    refine agrees_evaluated fun operands => ?_
    refine (agrees_query _).bind fun window => ?_
    refine (agrees_query _).bind fun property => ?_
    refine Agrees.bind (agrees_ask (.windowProperty _ _) rfl (fun _ _ => HostReply.property.inj)
      (fun _ => rfl) fun _ => rfl) fun value => ?_
    exact agrees_finishWith instruction value
  | pictureData => exact agrees_pictureData instruction
  | makeMenu => exact agrees_makeMenu instruction
  | outputStream =>
    exact agrees_evaluated fun _ =>
      (agrees_selectStream _ _).bind fun _ => agrees_proceed instruction
  | inputStream => exact agrees_evaluated fun _ => agrees_proceed instruction
  | soundEffect => exact agrees_soundEffect instruction
  | tokenise =>
    refine agrees_evaluated fun operands => ?_
    refine agrees_get_bind fun machine other agree => ?_
    rw [agree.story]
    exact (agrees_tokenise _ _ _ _).bind fun _ => agrees_proceed instruction
  | printTable =>
    refine agrees_evaluated fun operands => ?_
    refine Agrees.bind (agrees_ask .cursor rfl (fun _ _ => HostReply.cursor.inj) (fun _ => rfl)
      fun _ => rfl) fun cursor => ?_
    exact (agrees_printRows _ _ cursor _ _ _).bind fun _ => agrees_proceed instruction
  | printForm => exact agrees_printForm instruction
  | checkArgCount =>
    exact agrees_evaluated fun _ =>
      (agrees_queryStack _).bind fun _ => agrees_branchOn instruction _
  | save => exact (agrees_saveGame _).bind fun success => agrees_finishSave instruction success
  | saveExt =>
    exact agrees_evaluated fun _ =>
      (agrees_saveGame _).bind fun _ => agrees_finishWith instruction _
  | restore => exact agrees_resume agrees_restoreGame (agrees_finishSave instruction false)
  | restoreExt =>
    exact agrees_evaluated fun _ =>
      agrees_resume agrees_restoreGame (agrees_finishWith instruction 0)
  | saveUndo => exact (agrees_saveUndo _).bind fun _ => agrees_finishWith instruction 1
  | restoreUndo => exact agrees_resume agrees_restoreUndo (agrees_finishWith instruction 0)
  | restart => exact agrees_restart

theorem agrees_dispatch (instruction : Instruction) :
    Agrees relation (dispatch instruction : Engine η₁ Continuation) (dispatch instruction) := by
  unfold dispatch
  dsimp only
  cases instruction.opcode.operation? with
  | none => exact agrees_throw _
  | some operation =>
    refine agrees_version.bind fun version => ?_
    exact (agrees_perform instruction operation).ite (agrees_throw _)

end Operations

section Stepping

theorem agrees_degrade (instruction : Instruction) (error : Error) :
    Agrees relation (degrade instruction error : Engine η₁ Continuation)
      (degrade instruction error) :=
  (agrees_report error).bind fun _ => agrees_finishWith instruction 0

/-- A machine that has aborted does not carry on. -/
theorem agrees_carryOn (instruction : Instruction) {action₁ : Engine η₁ Continuation}
    {action₂ : Engine η₂ Continuation} (here : Agrees relation action₁ action₂) :
    Agrees relation (carryOn instruction action₁) (carryOn instruction action₂) := by
  intro machine other agree
  have agreed := here agree
  cases ran : action₁ machine with
  | ok next middle =>
    rw [ran] at agreed
    rw [carryOn, tryCatch_of_ok ran]
    generalize same : action₂ other = result at agreed
    cases agreed with
    | ok next agree =>
      rw [carryOn, tryCatch_of_ok same]
      exact .ok next agree
  | error error middle =>
    rw [ran] at agreed
    rw [carryOn, tryCatch_of_error ran]
    generalize same : action₂ other = result at agreed
    cases agreed with
    | error error agree =>
      rw [carryOn, tryCatch_of_error same]
      exact agrees_degrade instruction error agree
    | aborted error aborts =>
      rw [degrade, bind_of_error (report_of_abort aborts error)]
      exact .aborted error aborts _

theorem agrees_deliver (pending : PendingRead) (terminator : Zscii) :
    Agrees relation (deliver pending terminator : Engine η₁ Continuation)
      (deliver pending terminator) := by
  unfold deliver
  cases pending.request.kind with
  | character => exact agrees_finishWith _ terminator
  | line =>
    refine agrees_get_bind fun machine other agree => ?_
    rw [agree.commandScript, agree.captures, agree.story]
    refine (agrees_notify rfl).ite_bind fun _ => ?_
    exact (agrees_notify rfl).ite_bind fun _ => agrees_finishLine _ _ _ terminator

theorem agrees_finishRead (pending : PendingRead) (terminator : Zscii) :
    Agrees relation (finishRead pending terminator : Engine η₁ Unit)
      (finishRead pending terminator) := by
  refine Agrees.bind (agrees_modify fun _ _ agree => { agree with status := rfl }) fun _ => ?_
  exact (agrees_carryOn _ (agrees_deliver pending terminator)).bind fun next => agrees_follow next

theorem agrees_advance (next : Continuation) :
    Agrees relation (advance next : Engine η₁ Unit) (advance next) := by
  cases next with
  | goto address => exact agrees_follow (.goto address)
  | await request => exact agrees_follow (.await request)
  | quit => exact agrees_follow .quit
  | resume address value =>
    refine agrees_get_bind fun machine other agree => ?_
    rw [agree.pending]
    cases other.pending with
    | none => exact agrees_throw _
    | some pending =>
      refine Agrees.ite ?_ ?_
      · refine Agrees.bind (agrees_modify fun _ _ agree => ?_) fun _ => agrees_finishRead pending 0
        exact { agree with pending := rfl }
      · exact agrees_modify fun _ _ agree => { agree with pending := rfl, status := rfl }

theorem agrees_execute : Agrees relation (execute : Engine η₁ Unit) execute := by
  refine (agrees_queryStack _).bind fun top => ?_
  refine Agrees.bind (agrees_modify fun _ _ agree => ?_) fun _ => ?_
  · exact { agree with instructionCount := by rw [agree.instructionCount] }
  · refine (agrees_query _).bind fun instruction => ?_
    exact (agrees_carryOn instruction (agrees_dispatch instruction)).bind agrees_advance

theorem agrees_passTime (pending : PendingRead) (response : InputResponse) :
    Agrees relation (passTime pending response : Engine η₁ Unit) (passTime pending response) := by
  unfold passTime
  cases pending.timer.tick response pending.request.timeoutDuration? with
  | none => exact agrees_throw _
  | some ticks =>
    refine Agrees.ite ?_ ?_
    · refine Agrees.bind (agrees_modify fun _ _ agree => ?_) fun _ => ?_
      · exact { agree with pending := rfl, status := rfl }
      · exact (agrees_call _ _ _ _).bind agrees_advance
    · exact agrees_modify fun _ _ agree => { agree with pending := rfl, status := rfl }

theorem agrees_takeInput (response : InputResponse) :
    Agrees relation (takeInput response : Engine η₁ Unit) (takeInput response) := by
  refine agrees_get_bind fun machine other agree => ?_
  rw [agree.pending]
  cases other.pending with
  | none => exact agrees_throw _
  | some pending =>
    dsimp only
    cases (pending.consume response.values).2 with
    | some value =>
      refine Agrees.bind (agrees_modify fun _ _ agree => { agree with pending := rfl }) fun _ => ?_
      exact (agrees_noteClick value).bind fun _ => agrees_finishRead _ value.zscii
    | none => exact agrees_passTime _ response

theorem agrees_step (input : Option InputResponse) :
    Agrees relation (step input : Engine η₁ Unit) (step input) := by
  refine agrees_get_bind fun machine other agree => ?_
  rw [agree.status]
  cases other.status with
  | starting => exact agrees_start
  | running => exact agrees_execute
  | halted => exact agrees_pure ()
  | reading =>
    cases input with
    | some response => exact agrees_takeInput response
    | none => exact agrees_throw _

end Stepping

end Engine

end StoryMachine
