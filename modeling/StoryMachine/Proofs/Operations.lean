import StoryMachine.Proofs.Outcomes

/-! What each operation comes to, from what the actions that it is made of do. -/

namespace StoryMachine

def Operation.usesSnapshots : Operation → Bool
  | save | restore | restart | saveExt | restoreExt | saveUndo | restoreUndo => true
  | _ => false

def Operation.calls : Operation → Bool
  | call1s | call1n | call2s | call2n | callVs | callVs2 | callVn | callVn2 => true
  | _ => false

def Operation.goesBack : Operation → Bool
  | restore | restoreExt | restoreUndo | restart => true
  | _ => false

/-- Does an instruction go back to a snapshot, in a version that lets it? -/
def Instruction.goesBack (instruction : Instruction) (version : Version) : Bool :=
  instruction.opcode.operation?.any fun operation =>
    operation.isAvailable version && operation.goesBack

namespace Engine

variable {η : Type} [Host η]

section Endings

theorem finishes_throw (error : Error) : Finishes (throw error : Engine η Continuation) := by
  intro before
  exact .failed (.refl before) error

theorem finishes_goto (address : Nat) :
    Finishes (pure (.goto address) : Engine η Continuation) := by
  intro before
  exact .went (.refl before) address

theorem finishes_quit : Finishes (pure .quit : Engine η Continuation) := by
  intro before
  exact .stopped (.refl before)

theorem finishes_proceed (instruction : Instruction) :
    Finishes (proceed instruction : Engine η Continuation) :=
  finishes_goto instruction.next

theorem finishes_finishWith (instruction : Instruction) (value : UInt16) :
    Finishes (finishWith instruction value : Engine η Continuation) :=
  (quiet_storeResult instruction value).finishes fun _ => finishes_proceed instruction

theorem entered_call (address : Nat) (arguments : List UInt16) (kind : RoutineKind)
    (returnAddress : Nat) (before : Machine η) :
    Entered address arguments before (call address arguments kind returnAddress before) := by
  unfold call
  split
  next =>
    cases kind with
    | function store =>
      have quiet := quiet_writeVariable store.target.toNat 0 before
      cases written : writeVariable store.target.toNat 0 before with
      | ok _ after =>
        rw [written] at quiet
        simp only [bind_of_ok written]
        exact .skipped quiet returnAddress
      | error error after =>
        rw [written] at quiet
        simp only [bind_of_error written]
        exact .failed quiet error
    | procedure | interrupt => exact .skipped (.refl before) returnAddress
  next =>
    cases found : before.story.routine address with
    | error error =>
      have failed : (query (·.routine address) : Engine η (Nat × List UInt16)) before =
          .error error before := by simp only [query, found]
      rw [bind_of_error failed]
      exact .failed (.refl before) error
    | ok routine =>
      have ran : (query (·.routine address) : Engine η (Nat × List UInt16)) before =
          .ok routine before := by simp only [query, found]
      rw [bind_of_ok ran]
      exact .pushed found kind returnAddress

theorem called_callPacked (instruction : Instruction) (required : Nat)
    (arguments : Operands → List UInt16) (before : Machine η) :
    Called instruction arguments before ((do
      let operands ← evaluate instruction required
      callPacked instruction operands.first (arguments operands)) before) := by
  have quiet := quiet_evaluate instruction required before
  cases ran : evaluate instruction required before with
  | error error after =>
    rw [bind_of_error ran]
    rw [ran] at quiet
    exact .unevaluated quiet error
  | ok operands middle =>
    rw [bind_of_ok ran]
    exact .evaluated ran (entered_call _ (arguments operands) _ instruction.next middle)

omit [Host η] in
/-- Returning takes the innermost frame off the stack. -/
theorem returned_returnValue (before : Machine η) {frame : Frame} {outer : List Frame}
    (frames : before.stack.frames = frame :: outer) (value : UInt16) :
    Returned frame value { before with stack := ⟨outer⟩ } (returnValue value before) := by
  have active : before.stack.isEmpty = false := by simp [CallStack.isEmpty, frames]
  have popped : updateStack (·.pop) before = .ok frame { before with stack := ⟨outer⟩ } := by
    simp only [updateStack, CallStack.pop, frames]
  rw [returnValue, get_bind]
  simp only [active, Bool.false_eq_true, if_false]
  rw [bind_of_ok popped, get_bind]
  split
  next empty => exact .last empty
  next inside =>
    have active := Bool.eq_false_iff.mpr inside
    cases kind : frame.kind with
    | procedure => exact .dropped active kind
    | interrupt => exact .resumed active kind
    | function store =>
      cases written : writeVariable store.target.toNat value { before with stack := ⟨outer⟩ } with
      | ok _ after =>
        simp only [bind_of_ok written]
        exact .stored active kind written
      | error error after =>
        simp only [bind_of_error written]
        exact .unstored active kind written

theorem finishes_returnValue (value : UInt16) :
    Finishes (returnValue value : Engine η Continuation) := by
  intro before
  cases frames : before.stack.frames with
  | nil =>
    have idle : before.stack.isEmpty = true := by simp [CallStack.isEmpty, frames]
    rw [returnValue, get_bind, if_pos idle]
    exact .failed (.refl before) _
  | cons frame outer =>
    have innermost : before.stack.frames = [] ++ frame :: outer := frames
    exact .returns (.refl before) innermost (returned_returnValue before frames value)

theorem finishes_throwTo (depth : Nat) (value : UInt16) :
    Finishes (throwTo depth value : Engine η Continuation) := by
  intro before
  rw [throwTo, get_bind]
  split
  next => exact .failed (.refl before) _
  next inside =>
    obtain ⟨frame, outer, kept⟩ :
        ∃ frame outer, (before.stack.truncate depth).frames = frame :: outer := by
      apply List.exists_cons_of_length_pos
      simp only [CallStack.depth] at inside
      simp only [CallStack.truncate, CallStack.depth, List.length_drop]
      omega
    have frames : before.stack.frames =
        before.stack.frames.take (before.stack.depth - depth) ++ frame :: outer := by
      rw [← kept]
      exact (List.take_append_drop _ _).symm
    exact .returns (.refl before) frames
      (returned_returnValue { before with stack := before.stack.truncate depth } kept value)

theorem finishes_branchOn (instruction : Instruction) (condition : Bool) :
    Finishes (branchOn instruction condition : Engine η Continuation) := by
  unfold branchOn
  split
  next => exact finishes_proceed instruction
  next =>
    refine Finishes.ite ?_ (finishes_proceed instruction)
    split
    · exact finishes_returnValue 0
    · exact finishes_returnValue 1
    · exact finishes_goto _

theorem finishes_await (instruction : Instruction) (operands : Operands) (request : InputRequest) :
    Finishes (await instruction operands request : Engine η Continuation) := by
  intro before
  exact .waits (.refl before)
    { instruction, operands := operands.values, request, input := request.preloaded } rfl

end Endings

section Arithmetic

theorem finishes_unary (function : UInt16 → UInt16) (instruction : Instruction) :
    Finishes (unary function instruction : Engine η Continuation) :=
  (quiet_evaluate instruction 1).finishes fun _ => finishes_finishWith instruction _

theorem finishes_binary (function : UInt16 → UInt16 → UInt16) (instruction : Instruction) :
    Finishes (binary function instruction : Engine η Continuation) :=
  (quiet_evaluate instruction 2).finishes fun _ => finishes_finishWith instruction _

theorem finishes_divide (byZero : Error) (function : UInt16 → UInt16 → UInt16)
    (instruction : Instruction) :
    Finishes (divide byZero function instruction : Engine η Continuation) := by
  refine (quiet_evaluate instruction 2).finishes fun operands => ?_
  exact (keeps_throw byZero).finishes_ite fun _ => finishes_finishWith instruction _

theorem finishes_shift (function : UInt16 → Int → UInt16) (instruction : Instruction) :
    Finishes (shift function instruction : Engine η Continuation) := by
  refine (quiet_evaluate instruction 2).finishes fun operands => ?_
  exact (keeps_throw _).finishes_ite fun _ => finishes_finishWith instruction _

theorem finishes_randomNumber (instruction : Instruction) :
    Finishes (randomNumber instruction : Engine η Continuation) := by
  refine (quiet_evaluate instruction 1).finishes fun operands => ?_
  exact (quiet_random _).finishes fun value => finishes_finishWith instruction value

end Arithmetic

section Control

theorem finishes_branchUnary (test : UInt16 → Bool) (instruction : Instruction) :
    Finishes (branchUnary test instruction : Engine η Continuation) :=
  (quiet_evaluate instruction 1).finishes fun _ => finishes_branchOn instruction _

theorem finishes_branchBinary (test : UInt16 → UInt16 → Bool) (instruction : Instruction) :
    Finishes (branchBinary test instruction : Engine η Continuation) :=
  (quiet_evaluate instruction 2).finishes fun _ => finishes_branchOn instruction _

theorem finishes_branchEqual (instruction : Instruction) :
    Finishes (branchEqual instruction : Engine η Continuation) :=
  (quiet_evaluate instruction 2).finishes fun _ => finishes_branchOn instruction _

theorem finishes_stepAndBranch (step : UInt16 → UInt16) (test : UInt16 → UInt16 → Bool)
    (instruction : Instruction) :
    Finishes (stepAndBranch step test instruction : Engine η Continuation) := by
  refine (quiet_evaluate instruction 2).finishes fun operands => ?_
  refine (quiet_peekVariable _).finishes fun value => ?_
  exact (quiet_replaceVariable _ _).finishes fun _ => finishes_branchOn instruction _

theorem finishes_jump (instruction : Instruction) :
    Finishes (jump instruction : Engine η Continuation) :=
  (quiet_evaluate instruction 1).finishes fun _ => finishes_goto _

theorem called_callRoutine (required : Nat) (instruction : Instruction) (before : Machine η) :
    Called instruction Operands.rest before (callRoutine required instruction before) :=
  called_callPacked instruction required Operands.rest before

theorem called_callPlain (instruction : Instruction) (before : Machine η) :
    Called instruction (fun _ => []) before (callPlain instruction before) :=
  called_callPacked instruction 1 (fun _ => []) before

theorem finishes_returnOperand (instruction : Instruction) :
    Finishes (returnOperand instruction : Engine η Continuation) :=
  (quiet_evaluate instruction 1).finishes fun _ => finishes_returnValue _

theorem finishes_returnPopped : Finishes (returnPopped : Engine η Continuation) :=
  (quiet_readVariable 0).finishes fun _ => finishes_returnValue _

theorem finishes_catchFrame (instruction : Instruction) :
    Finishes (catchFrame instruction : Engine η Continuation) :=
  keeps_get.finishes fun _ => finishes_finishWith instruction _

theorem finishes_throwValue (instruction : Instruction) :
    Finishes (throwValue instruction : Engine η Continuation) :=
  (quiet_evaluate instruction 2).finishes fun _ => finishes_throwTo _ _

theorem finishes_checkArgumentCount (instruction : Instruction) :
    Finishes (checkArgumentCount instruction : Engine η Continuation) := by
  refine (quiet_evaluate instruction 1).finishes fun operands => ?_
  exact (keeps_queryStack _).finishes fun top => finishes_branchOn instruction _

theorem finishes_verify (instruction : Instruction) :
    Finishes (verify instruction : Engine η Continuation) :=
  keeps_get.finishes fun _ => finishes_branchOn instruction _

end Control

section Objects

theorem finishes_storeLink (link : Link) (instruction : Instruction) :
    Finishes (storeLink link instruction : Engine η Continuation) := by
  refine (quiet_evaluate instruction 1).finishes fun operands => ?_
  exact (keeps_query _).finishes fun object => finishes_finishWith instruction _

theorem finishes_storeLinkAndBranch (link : Link) (instruction : Instruction) :
    Finishes (storeLinkAndBranch link instruction : Engine η Continuation) := by
  refine (quiet_evaluate instruction 1).finishes fun operands => ?_
  refine (keeps_query _).finishes fun object => ?_
  exact (quiet_storeResult instruction _).finishes fun _ => finishes_branchOn instruction _

theorem finishes_branchInside (instruction : Instruction) :
    Finishes (branchInside instruction : Engine η Continuation) := by
  refine (quiet_evaluate instruction 2).finishes fun operands => ?_
  exact (keeps_query _).finishes fun parent => finishes_branchOn instruction _

/-- An operation that changes the story and goes on. -/
theorem finishes_update {change : Update α} (kept : Keeps Story.SameStatic change)
    (instruction : Instruction) :
    Finishes (update change >>= fun _ => proceed instruction : Engine η Continuation) :=
  (quiet_update kept).finishes fun _ => finishes_proceed instruction

theorem finishes_insertObject (instruction : Instruction) :
    Finishes (insertObject instruction : Engine η Continuation) :=
  (quiet_evaluate instruction 2).finishes fun _ =>
    finishes_update (Update.keeps_insertObject _ _) instruction

theorem finishes_removeObject (instruction : Instruction) :
    Finishes (removeObject instruction : Engine η Continuation) :=
  (quiet_evaluate instruction 1).finishes fun _ =>
    finishes_update (Update.keeps_removeObject _) instruction

theorem finishes_testAttribute (instruction : Instruction) :
    Finishes (testAttribute instruction : Engine η Continuation) := by
  refine (quiet_evaluate instruction 2).finishes fun operands => ?_
  exact (keeps_query _).finishes fun isSet => finishes_branchOn instruction isSet

theorem finishes_changeAttribute {change : Nat → Nat → Update Unit}
    (kept : ∀ object number, Keeps Story.SameStatic (change object number))
    (instruction : Instruction) :
    Finishes (changeAttribute change instruction : Engine η Continuation) :=
  (quiet_evaluate instruction 2).finishes fun _ => finishes_update (kept _ _) instruction

theorem finishes_storeProperty (read : Story → (object number : Nat) → Except Error UInt16)
    (instruction : Instruction) :
    Finishes (storeProperty read instruction : Engine η Continuation) := by
  refine (quiet_evaluate instruction 2).finishes fun operands => ?_
  exact (keeps_query _).finishes fun value => finishes_finishWith instruction value

theorem finishes_propertyLength (instruction : Instruction) :
    Finishes (propertyLength instruction : Engine η Continuation) := by
  refine (quiet_evaluate instruction 1).finishes fun operands => ?_
  exact (keeps_query _).finishes fun length => finishes_finishWith instruction _

theorem finishes_setProperty (instruction : Instruction) :
    Finishes (setProperty instruction : Engine η Continuation) :=
  (quiet_evaluate instruction 3).finishes fun _ =>
    finishes_update (Update.keeps_setProperty _ _ _) instruction

end Objects

section Variables

theorem finishes_stepVariable (step : UInt16 → UInt16) (instruction : Instruction) :
    Finishes (stepVariable step instruction : Engine η Continuation) := by
  refine (quiet_evaluate instruction 1).finishes fun operands => ?_
  refine (quiet_peekVariable _).finishes fun value => ?_
  exact (quiet_replaceVariable _ _).finishes fun _ => finishes_proceed instruction

theorem finishes_loadVariable (instruction : Instruction) :
    Finishes (loadVariable instruction : Engine η Continuation) := by
  refine (quiet_evaluate instruction 1).finishes fun operands => ?_
  exact (quiet_peekVariable _).finishes fun value => finishes_finishWith instruction value

theorem finishes_storeVariable (instruction : Instruction) :
    Finishes (storeVariable instruction : Engine η Continuation) := by
  refine (quiet_evaluate instruction 2).finishes fun operands => ?_
  exact (quiet_replaceVariable _ _).finishes fun _ => finishes_proceed instruction

theorem finishes_pushOperand (instruction : Instruction) :
    Finishes (pushOperand instruction : Engine η Continuation) := by
  refine (quiet_evaluate instruction 1).finishes fun operands => ?_
  exact (quiet_push _).finishes fun _ => finishes_proceed instruction

theorem finishes_popOne (instruction : Instruction) :
    Finishes (popOne instruction : Engine η Continuation) :=
  (quiet_readVariable 0).finishes fun _ => finishes_proceed instruction

theorem finishes_pull (instruction : Instruction) :
    Finishes (pull instruction : Engine η Continuation) := by
  refine keeps_version.finishes fun version => ?_
  refine Finishes.ite ?_ ?_
  · refine (quiet_evaluate instruction 0).finishes fun operands => ?_
    split
    · exact (quiet_update (Update.keeps_popUserStack _)).finishes fun value =>
        finishes_finishWith instruction value
    · exact (quiet_readVariable 0).finishes fun value => finishes_finishWith instruction value
  · refine (quiet_evaluate instruction 1).finishes fun operands => ?_
    refine (quiet_readVariable 0).finishes fun value => ?_
    exact (quiet_replaceVariable _ value).finishes fun _ => finishes_proceed instruction

theorem finishes_popStack (instruction : Instruction) :
    Finishes (popStack instruction : Engine η Continuation) := by
  refine (quiet_evaluate instruction 1).finishes fun operands => ?_
  split
  · exact finishes_update (Update.keeps_dropUserStack _ _) instruction
  · exact (quiet_popMany _).finishes fun _ => finishes_proceed instruction

theorem finishes_pushStack (instruction : Instruction) :
    Finishes (pushStack instruction : Engine η Continuation) := by
  refine (quiet_evaluate instruction 2).finishes fun operands => ?_
  exact (quiet_update (Update.keeps_pushUserStack _ _)).finishes fun pushed =>
    finishes_branchOn instruction pushed

end Variables

section Tables

theorem finishes_loadWord (instruction : Instruction) :
    Finishes (loadWord instruction : Engine η Continuation) := by
  refine (quiet_evaluate instruction 2).finishes fun operands => ?_
  exact (keeps_query _).finishes fun value => finishes_finishWith instruction value

theorem finishes_loadByte (instruction : Instruction) :
    Finishes (loadByte instruction : Engine η Continuation) := by
  refine (quiet_evaluate instruction 2).finishes fun operands => ?_
  exact (keeps_query _).finishes fun value => finishes_finishWith instruction _

theorem finishes_storeWord (instruction : Instruction) :
    Finishes (storeWord instruction : Engine η Continuation) :=
  (quiet_evaluate instruction 3).finishes fun _ =>
    finishes_update (Update.keeps_writeWord _ _) instruction

theorem finishes_storeByte (instruction : Instruction) :
    Finishes (storeByte instruction : Engine η Continuation) :=
  (quiet_evaluate instruction 3).finishes fun _ =>
    finishes_update (Update.keeps_writeByte _ _) instruction

theorem finishes_scanTable (instruction : Instruction) :
    Finishes (scanTable instruction : Engine η Continuation) := by
  refine (quiet_evaluate instruction 3).finishes fun operands => ?_
  refine (keeps_query _).finishes fun found => ?_
  exact (quiet_storeResult instruction _).finishes fun _ => finishes_branchOn instruction _

theorem finishes_copyTable (instruction : Instruction) :
    Finishes (copyTable instruction : Engine η Continuation) :=
  (quiet_evaluate instruction 3).finishes fun _ =>
    finishes_update (Update.keeps_copyTable _ _ _) instruction

end Tables

section Printing

theorem finishes_printLiteral (instruction : Instruction) :
    Finishes (printLiteral instruction : Engine η Continuation) :=
  (quiet_printFollowing instruction).finishes fun _ => finishes_proceed instruction

theorem finishes_printAndReturn (instruction : Instruction) :
    Finishes (printAndReturn instruction : Engine η Continuation) := by
  refine (quiet_printFollowing instruction).finishes fun _ => ?_
  exact quiet_newLine.finishes fun _ => finishes_returnValue 1

theorem finishes_printAt (address : Story → UInt16 → Nat) (instruction : Instruction) :
    Finishes (printAt address instruction : Engine η Continuation) := by
  refine (quiet_evaluate instruction 1).finishes fun operands => ?_
  refine keeps_get.finishes fun machine => ?_
  refine (quiet_decodeAt _).finishes fun text => ?_
  exact (quiet_print text).finishes fun _ => finishes_proceed instruction

theorem finishes_printObject (instruction : Instruction) :
    Finishes (printObject instruction : Engine η Continuation) := by
  refine (quiet_evaluate instruction 1).finishes fun operands => ?_
  refine (keeps_query _).finishes fun name => ?_
  refine (quiet_decodeWords name).finishes fun text => ?_
  exact (quiet_print text).finishes fun _ => finishes_proceed instruction

theorem finishes_printOperand (text : UInt16 → List Zscii) (instruction : Instruction) :
    Finishes (printOperand text instruction : Engine η Continuation) := by
  refine (quiet_evaluate instruction 1).finishes fun operands => ?_
  exact (quiet_print _).finishes fun _ => finishes_proceed instruction

theorem finishes_checkUnicode (instruction : Instruction) :
    Finishes (checkUnicode instruction : Engine η Continuation) :=
  (quiet_evaluate instruction 1).finishes fun _ => finishes_finishWith instruction _

theorem finishes_printNewLine (instruction : Instruction) :
    Finishes (printNewLine instruction : Engine η Continuation) :=
  quiet_newLine.finishes fun _ => finishes_proceed instruction

theorem finishes_showStatusLine (instruction : Instruction) :
    Finishes (showStatusLine instruction : Engine η Continuation) := by
  refine keeps_version.finishes fun version => ?_
  exact quiet_showStatus.finishes_ite fun _ => finishes_proceed instruction

theorem finishes_printTable (instruction : Instruction) :
    Finishes (printTable instruction : Engine η Continuation) := by
  refine (quiet_evaluate instruction 2).finishes fun operands => ?_
  refine (quiet_ask Consulted.cursor).finishes fun cursor => ?_
  exact (quiet_printRows _ _ cursor _ _ _).finishes fun _ => finishes_proceed instruction

theorem finishes_printForm (instruction : Instruction) :
    Finishes (printForm instruction : Engine η Continuation) := by
  refine (quiet_evaluate instruction 1).finishes fun operands => ?_
  refine keeps_get.finishes fun machine => ?_
  have line (text : List Zscii) (_ : PUnit) : Keeps Quiet (do
      print text
      newLine
      pure (ForInStep.yield PUnit.unit) : Engine η (ForInStep PUnit)) :=
    (quiet_print text).bind fun _ => quiet_newLine.bind fun _ => keeps_pure _
  refine (Keeps.forIn line _ _).finishes fun _ => ?_
  split
  · exact (keeps_throw _).finishes fun _ => finishes_proceed instruction
  · exact finishes_proceed instruction

theorem finishes_tokeniseBuffer (instruction : Instruction) :
    Finishes (tokeniseBuffer instruction : Engine η Continuation) := by
  refine (quiet_evaluate instruction 2).finishes fun operands => ?_
  refine keeps_get.finishes fun machine => ?_
  exact (quiet_tokenise _ _ _ _).finishes fun _ => finishes_proceed instruction

theorem finishes_encodeText (instruction : Instruction) :
    Finishes (encodeText instruction : Engine η Continuation) :=
  (quiet_evaluate instruction 4).finishes fun _ =>
    finishes_update (Update.keeps_encodeText _ _ _ _) instruction

end Printing

section Reading

theorem finishes_readCharacter (instruction : Instruction) :
    Finishes (readCharacter instruction : Engine η Continuation) := by
  refine (quiet_evaluate instruction 0).finishes fun operands => ?_
  exact keeps_get.finishes fun machine => finishes_await instruction operands _

theorem finishes_readLine (instruction : Instruction) :
    Finishes (readLine instruction : Engine η Continuation) := by
  refine (quiet_evaluate instruction 1).finishes fun operands => ?_
  refine keeps_version.finishes fun version => ?_
  refine quiet_showStatus.finishes_ite fun _ => ?_
  refine (keeps_query _).finishes fun capacity => ?_
  refine (keeps_query _).finishes fun preloaded => ?_
  refine (keeps_query _).finishes fun terminators => ?_
  exact keeps_get.finishes fun machine => finishes_await instruction operands _

theorem finishes_finishLine (instruction : Instruction) (operands : Operands) (line : List Zscii)
    (terminator : Zscii) :
    Finishes (finishLine instruction operands line terminator : Engine η Continuation) := by
  have stored (_ : Unit) : Finishes (do
      if .v5 ≤ (← version) then
        storeResult instruction terminator
      proceed instruction : Engine η Continuation) := by
    refine keeps_version.finishes fun version => ?_
    exact (quiet_storeResult instruction terminator).finishes_ite fun _ =>
      finishes_proceed instruction
  refine (quiet_update (Update.keeps_writeLine _ line)).finishes fun _ => ?_
  refine Finishes.ite (keeps_get.finishes fun machine => ?_) (stored ())
  exact (quiet_tokenise _ _ _ _).finishes stored

end Reading

section Screen

theorem quiet_windowOperand (operands : Operands) (index : Nat) :
    Keeps Quiet (windowOperand operands index : Engine η Int16) := by
  unfold windowOperand
  split
  · exact keeps_check _
  · exact keeps_pure _

theorem quiet_windowOperandV6 (operands : Operands) (index : Nat) :
    Keeps Quiet (windowOperandV6 operands index : Engine η Int16) :=
  keeps_version.bind fun _ => (quiet_windowOperand operands index).ite (keeps_pure _)

/-- An operation that tells the presentation something and goes on. -/
theorem finishes_notify (notice : Notice) (instruction : Instruction) :
    Finishes (notify notice >>= fun _ => proceed instruction : Engine η Continuation) :=
  (quiet_notify notice).finishes fun _ => finishes_proceed instruction

theorem finishes_notifyOperand (notice : UInt16 → Notice) (instruction : Instruction) :
    Finishes (notifyOperand notice instruction : Engine η Continuation) :=
  (quiet_evaluate instruction 1).finishes fun _ => finishes_notify _ instruction

theorem finishes_notifyWindow (notice : Int16 → Notice) (instruction : Instruction) :
    Finishes (notifyWindow notice instruction : Engine η Continuation) := by
  refine (quiet_evaluate instruction 1).finishes fun operands => ?_
  exact (keeps_check _).finishes fun window => finishes_notify _ instruction

theorem finishes_setCursor (instruction : Instruction) :
    Finishes (setCursor instruction : Engine η Continuation) := by
  refine (quiet_evaluate instruction 2).finishes fun operands => ?_
  exact (quiet_windowOperandV6 operands 2).finishes fun window => finishes_notify _ instruction

theorem finishes_getCursor (instruction : Instruction) :
    Finishes (getCursor instruction : Engine η Continuation) := by
  refine (quiet_evaluate instruction 1).finishes fun operands => ?_
  refine (quiet_ask Consulted.cursor).finishes fun cursor => ?_
  exact finishes_update (Update.keeps_writeWords _ _) instruction

theorem finishes_setColour (instruction : Instruction) :
    Finishes (setColour instruction : Engine η Continuation) := by
  refine (quiet_evaluate instruction 2).finishes fun operands => ?_
  refine (keeps_check _).finishes fun foreground => ?_
  refine (keeps_check _).finishes fun background => ?_
  exact (quiet_windowOperandV6 operands 2).finishes fun window => finishes_notify _ instruction

theorem finishes_setTrueColour (instruction : Instruction) :
    Finishes (setTrueColour instruction : Engine η Continuation) := by
  refine (quiet_evaluate instruction 2).finishes fun operands => ?_
  exact (quiet_windowOperandV6 operands 2).finishes fun window => finishes_notify _ instruction

theorem finishes_setFont (instruction : Instruction) :
    Finishes (setFont instruction : Engine η Continuation) := by
  refine (quiet_evaluate instruction 1).finishes fun operands => ?_
  exact (quiet_ask (Consulted.font _)).finishes fun previous =>
    finishes_finishWith instruction previous

theorem finishes_selectOutput (instruction : Instruction) :
    Finishes (selectOutput instruction : Engine η Continuation) := by
  refine (quiet_evaluate instruction 1).finishes fun operands => ?_
  exact (quiet_selectStream _ _).finishes fun _ => finishes_proceed instruction

theorem finishes_selectInput (instruction : Instruction) :
    Finishes (selectInput instruction : Engine η Continuation) :=
  (quiet_evaluate instruction 1).finishes fun _ => finishes_proceed instruction

theorem finishes_soundEffect (instruction : Instruction) :
    Finishes (soundEffect instruction : Engine η Continuation) := by
  refine (quiet_evaluate instruction 0).finishes fun operands => ?_
  refine Finishes.ite (finishes_notify _ instruction) ?_
  refine (keeps_throw _).finishes_ite fun _ => ?_
  exact keeps_get.finishes fun machine => finishes_notify _ instruction

theorem finishes_notifyPicture (notice : (picture row column : UInt16) → Notice)
    (instruction : Instruction) :
    Finishes (notifyPicture notice instruction : Engine η Continuation) :=
  (quiet_evaluate instruction 1).finishes fun _ => finishes_notify _ instruction

theorem finishes_pictureData (instruction : Instruction) :
    Finishes (pictureData instruction : Engine η Continuation) := by
  refine (quiet_evaluate instruction 2).finishes fun operands => ?_
  refine (quiet_ask (Consulted.picture _)).finishes fun size => ?_
  split
  · exact (quiet_update (Update.keeps_writeWords _ _)).finishes fun _ =>
      finishes_branchOn instruction true
  · exact finishes_branchOn instruction false

theorem finishes_pictureTable (instruction : Instruction) :
    Finishes (pictureTable instruction : Engine η Continuation) := by
  refine (quiet_evaluate instruction 1).finishes fun operands => ?_
  exact (keeps_query _).finishes fun pictures => finishes_notify _ instruction

theorem finishes_setMargins (instruction : Instruction) :
    Finishes (setMargins instruction : Engine η Continuation) := by
  refine (quiet_evaluate instruction 2).finishes fun operands => ?_
  exact (quiet_windowOperand operands 2).finishes fun window => finishes_notify _ instruction

theorem finishes_moveWindow (instruction : Instruction) :
    Finishes (moveWindow instruction : Engine η Continuation) := by
  refine (quiet_evaluate instruction 3).finishes fun operands => ?_
  exact (keeps_check _).finishes fun window => finishes_notify _ instruction

theorem finishes_windowSize (instruction : Instruction) :
    Finishes (windowSize instruction : Engine η Continuation) := by
  refine (quiet_evaluate instruction 3).finishes fun operands => ?_
  refine (keeps_check _).finishes fun window => ?_
  exact (keeps_throw _).finishes_ite fun _ => finishes_notify _ instruction

theorem finishes_windowStyle (instruction : Instruction) :
    Finishes (windowStyle instruction : Engine η Continuation) := by
  refine (quiet_evaluate instruction 2).finishes fun operands => ?_
  refine (keeps_check _).finishes fun window => ?_
  exact (keeps_throw _).finishes_ite fun _ => finishes_notify _ instruction

theorem finishes_getWindowProperty (instruction : Instruction) :
    Finishes (getWindowProperty instruction : Engine η Continuation) := by
  refine (quiet_evaluate instruction 2).finishes fun operands => ?_
  refine (keeps_check _).finishes fun window => ?_
  refine (keeps_check _).finishes fun property => ?_
  exact (quiet_ask (Consulted.property window property)).finishes fun value =>
    finishes_finishWith instruction value

theorem finishes_putWindowProperty (instruction : Instruction) :
    Finishes (putWindowProperty instruction : Engine η Continuation) := by
  refine (quiet_evaluate instruction 3).finishes fun operands => ?_
  refine (keeps_check _).finishes fun window => ?_
  exact (keeps_check _).finishes fun property => finishes_notify _ instruction

theorem finishes_scrollWindow (instruction : Instruction) :
    Finishes (scrollWindow instruction : Engine η Continuation) := by
  refine (quiet_evaluate instruction 2).finishes fun operands => ?_
  exact (keeps_check _).finishes fun window => finishes_notify _ instruction

theorem finishes_readMouse (instruction : Instruction) :
    Finishes (readMouse instruction : Engine η Continuation) := by
  refine (quiet_evaluate instruction 1).finishes fun operands => ?_
  refine (quiet_ask Consulted.mouse).finishes fun mouse => ?_
  exact finishes_update (Update.keeps_writeWords _ _) instruction

theorem finishes_makeMenu (instruction : Instruction) :
    Finishes (makeMenu instruction : Engine η Continuation) := by
  refine (quiet_evaluate instruction 2).finishes fun operands => ?_
  refine (keeps_throw _).finishes_ite fun _ => ?_
  refine Finishes.ite ((keeps_pure []).finishes fun items => ?_)
    ((keeps_query _).finishes fun items => ?_)
  all_goals
    exact (quiet_ask (Consulted.menu _ items)).finishes fun made =>
      finishes_branchOn instruction made

theorem finishes_bufferScreen (instruction : Instruction) :
    Finishes (bufferScreen instruction : Engine η Continuation) :=
  (quiet_evaluate instruction 1).finishes fun _ => finishes_finishWith instruction 0

end Screen

section Saving

omit [Host η] in
theorem restoreSnapshot_of_some {before after : Machine η} {snapshot : Snapshot}
    (went : before.restore? snapshot = some after) :
    restoreSnapshot snapshot before = .ok true after := by
  rw [restoreSnapshot, get_bind]
  simp only [went]
  rfl

omit [Host η] in
theorem restoreSnapshot_of_none {before : Machine η} {snapshot : Snapshot}
    (refused : before.restore? snapshot = none) :
    restoreSnapshot snapshot before = .ok false before := by
  rw [restoreSnapshot, get_bind]
  simp only [refused]
  rfl

theorem archives_saveGame (address : Nat) : Archives (saveGame address : Engine η Bool) := by
  intro before
  exact ⟨_, _, rfl, .saved address⟩

/-- What asking the store for its snapshot comes to: going back to the snapshot, or nothing. -/
theorem restoreGame_cases (before : Machine η) :
    ∃ value after, restoreGame before = .ok value after ∧
      (value = none ∧ after = { before with host := (SaveStore.restore before.host).2 } ∨
        ∃ snapshot, value = some snapshot.address ∧
          (SaveStore.restore before.host).1 = some snapshot ∧
          { before with host := (SaveStore.restore before.host).2 }.restore? snapshot =
            some after) := by
  let asked := { before with host := (SaveStore.restore before.host).2 }
  have answered : (ask SaveStore.restore : Engine η (Option Snapshot)) before =
      .ok (SaveStore.restore before.host).1 asked := rfl
  rw [restoreGame, bind_of_ok answered]
  cases found : (SaveStore.restore before.host).1 with
  | none => exact ⟨none, asked, rfl, .inl ⟨rfl, rfl⟩⟩
  | some snapshot =>
    cases went : asked.restore? snapshot with
    | none =>
      refine ⟨none, asked, ?_, .inl ⟨rfl, rfl⟩⟩
      simp only [bind_of_ok (restoreSnapshot_of_none went)]
      rfl
    | some after =>
      refine ⟨some snapshot.address, after, ?_, .inr ⟨snapshot, rfl, rfl, went⟩⟩
      simp only [bind_of_ok (restoreSnapshot_of_some went)]
      rfl

theorem archives_restoreGame : Archives (restoreGame : Engine η (Option Nat)) := by
  intro before
  obtain ⟨value, after, ran, ⟨-, rfl⟩ | ⟨snapshot, -, found, went⟩⟩ := restoreGame_cases before
  · exact ⟨value, _, ran, .missed⟩
  · exact ⟨value, after, ran, .restored found went⟩

theorem archives_saveUndo (address : Nat) : Archives (saveUndo address : Engine η Unit) := by
  intro before
  exact ⟨(), _, rfl, .noted address⟩

omit [Host η] in
/-- What undoing comes to: going back to the latest snapshot, dropping it, or nothing. -/
theorem restoreUndo_cases (before : Machine η) :
    ∃ value after, restoreUndo before = .ok value after ∧
      (after = before ∨
        ∃ snapshot undo, before.undo.pop? = some (snapshot, undo) ∧
          (after = { before with undo } ∨
            { before with undo }.restore? snapshot = some after)) := by
  cases popped : before.undo.pop? with
  | none =>
    refine ⟨none, before, ?_, .inl rfl⟩
    simp only [restoreUndo, get_bind, popped]
    rfl
  | some entry =>
    obtain ⟨snapshot, undo⟩ := entry
    let taken := { before with undo }
    have run : restoreUndo before = (do
        return if ← restoreSnapshot snapshot then some snapshot.address else none) taken := by
      simp only [restoreUndo, get_bind, popped]
      rfl
    cases went : taken.restore? snapshot with
    | none =>
      refine ⟨none, taken, ?_, .inr ⟨snapshot, undo, rfl, .inl rfl⟩⟩
      rw [run, bind_of_ok (restoreSnapshot_of_none went)]
      rfl
    | some after =>
      refine ⟨some snapshot.address, after, ?_, .inr ⟨snapshot, undo, rfl, .inr went⟩⟩
      rw [run, bind_of_ok (restoreSnapshot_of_some went)]
      rfl

theorem archives_restoreUndo : Archives (restoreUndo : Engine η (Option Nat)) := by
  intro before
  obtain ⟨value, after, ran, rfl | ⟨snapshot, undo, popped, rfl | went⟩⟩ := restoreUndo_cases before
  · exact ⟨value, _, ran, .none⟩
  · exact ⟨value, _, ran, .dropped popped⟩
  · exact ⟨value, after, ran, .undone popped went⟩

theorem finishes_finishSave (instruction : Instruction) (success : Bool) :
    Finishes (finishSave instruction success : Engine η Continuation) :=
  (finishes_branchOn instruction success).ite (finishes_finishWith instruction _)

theorem finishes_resumeAfter (address : Nat) :
    Finishes (resumeAfter address : Engine η Continuation) := by
  refine (keeps_query _).finishes fun instruction => ?_
  exact (finishes_branchOn instruction true).ite (finishes_finishWith instruction 2)

theorem settles_save (instruction : Instruction) :
    Settles (save instruction : Engine η Continuation) :=
  (archives_saveGame _).settles fun success => finishes_finishSave instruction success

theorem settles_restore (instruction : Instruction) :
    Settles (restore instruction : Engine η Continuation) := by
  refine archives_restoreGame.settles fun found => ?_
  split
  · exact finishes_resumeAfter _
  · exact finishes_finishSave instruction false

theorem settles_saveExtended (instruction : Instruction) :
    Settles (saveExtended instruction : Engine η Continuation) := by
  refine (quiet_evaluate instruction 0).settles fun _ => ?_
  exact (archives_saveGame _).settles fun success => finishes_finishWith instruction _

theorem settles_restoreExtended (instruction : Instruction) :
    Settles (restoreExtended instruction : Engine η Continuation) := by
  refine (quiet_evaluate instruction 0).settles fun _ => ?_
  refine archives_restoreGame.settles fun found => ?_
  split
  · exact finishes_resumeAfter _
  · exact finishes_finishWith instruction 0

theorem settles_takeUndo (instruction : Instruction) :
    Settles (takeUndo instruction : Engine η Continuation) :=
  (archives_saveUndo _).settles fun _ => finishes_finishWith instruction 1

theorem settles_undo (instruction : Instruction) :
    Settles (undo instruction : Engine η Continuation) := by
  refine archives_restoreUndo.settles fun found => ?_
  split
  · exact finishes_resumeAfter _
  · exact finishes_finishWith instruction 0

/-- A restart fails, or goes on in the state after the start. -/
theorem restart_cases (before : Machine η) :
    Finished before (restart before) ∨
      ∃ snapshot memory, before.initial = some snapshot ∧
        before.story.memory.replace snapshot.image = .ok memory ∧
        Finished { before with
          story := { before.story with
            memory := memory.setHeaderWord .flags2 (before.story.memory.headerWord .flags2) }
          stack := snapshot.stack
          captures := []
          randomMode := .random
          host := RandomSource.seed before.config.randomSeed before.host } (restart before) := by
  have resumed : Finishes (do
      notify .reset
      let top ← queryStack (·.top)
      return .goto top.pc : Engine η Continuation) :=
    (quiet_notify .reset).finishes fun _ => (keeps_queryStack _).finishes fun top =>
      finishes_goto top.pc
  obtain initial | ⟨snapshot, initial⟩ := Option.eq_none_or_eq_some before.initial
  · rw [restart, get_bind, initial]
    exact .inl (finishes_throw _ before)
  · cases replaced : before.story.memory.replace snapshot.image with
    | error error =>
      have failed : (update (Update.modifyMemory (·.replace snapshot.image)) : Engine η Unit)
          before = .error error before := by
        simp only [update, Update.modifyMemory, replaced]
      rw [restart, get_bind, initial]
      simp only [bind_of_error failed]
      exact .inl (finishes_throw error before)
    | ok memory =>
      have ran : (update (Update.modifyMemory (·.replace snapshot.image)) : Engine η Unit)
          before = .ok () { before with story := { before.story with memory } } := by
        simp only [update, Update.modifyMemory, replaced]
      refine .inr ⟨snapshot, memory, initial, replaced, ?_⟩
      have finished := resumed { before with
        story := { before.story with
          memory := memory.setHeaderWord .flags2 (before.story.memory.headerWord .flags2) }
        stack := snapshot.stack
        captures := []
        randomMode := .random
        host := RandomSource.seed before.config.randomSeed before.host }
      unfold restart
      rw [get_bind]
      simp only [initial] at finished ⊢
      rw [bind_of_ok ran]
      simp only [initial]
      exact finished

theorem settles_restart : Settles (restart : Engine η Continuation) := by
  intro before
  obtain finished | ⟨snapshot, memory, initial, replaced, finished⟩ := restart_cases before
  · exact finished.settled
  · exact ⟨before, _, .refl before, .restarted initial replaced, finished⟩

end Saving

/-- Operations on snapshots and calls apart, an operation is quiet up to how it ends. -/
theorem finishes_perform (instruction : Instruction) (operation : Operation)
    (plain : operation.usesSnapshots = false) (stays : operation.calls = false) :
    Finishes (perform instruction operation : Engine η Continuation) := by
  unfold perform
  cases operation with
  | je => exact finishes_branchEqual instruction
  | jl | jg | test => exact finishes_branchBinary _ instruction
  | decChk | incChk => exact finishes_stepAndBranch _ _ instruction
  | jin => exact finishes_branchInside instruction
  | bitOr | bitAnd | add | sub | mul => exact finishes_binary _ instruction
  | testAttr => exact finishes_testAttribute instruction
  | setAttr => exact finishes_changeAttribute Update.keeps_setAttribute instruction
  | clearAttr => exact finishes_changeAttribute Update.keeps_clearAttribute instruction
  | store => exact finishes_storeVariable instruction
  | insertObj => exact finishes_insertObject instruction
  | loadw => exact finishes_loadWord instruction
  | loadb => exact finishes_loadByte instruction
  | getProp | getPropAddr | getNextProp => exact finishes_storeProperty _ instruction
  | div | mod => exact finishes_divide _ _ instruction
  | setColour => exact finishes_setColour instruction
  | throwTo => exact finishes_throwValue instruction
  | jz => exact finishes_branchUnary _ instruction
  | getSibling | getChild => exact finishes_storeLinkAndBranch _ instruction
  | getParent => exact finishes_storeLink _ instruction
  | getPropLen => exact finishes_propertyLength instruction
  | inc | dec => exact finishes_stepVariable _ instruction
  | printAddr | printPaddr => exact finishes_printAt _ instruction
  | removeObj => exact finishes_removeObject instruction
  | printObj => exact finishes_printObject instruction
  | ret => exact finishes_returnOperand instruction
  | jump => exact finishes_jump instruction
  | load => exact finishes_loadVariable instruction
  | bitNot | bitNotVar => exact finishes_unary _ instruction
  | rtrue => exact finishes_returnValue 1
  | rfalse => exact finishes_returnValue 0
  | print => exact finishes_printLiteral instruction
  | printRet => exact finishes_printAndReturn instruction
  | nop => exact finishes_proceed instruction
  | retPopped => exact finishes_returnPopped
  | pop => exact finishes_popOne instruction
  | catchFrame => exact finishes_catchFrame instruction
  | quit => exact finishes_quit
  | newLine => exact finishes_printNewLine instruction
  | showStatus => exact finishes_showStatusLine instruction
  | verify => exact finishes_verify instruction
  | piracy => exact finishes_branchOn instruction true
  | storew => exact finishes_storeWord instruction
  | storeb => exact finishes_storeByte instruction
  | putProp => exact finishes_setProperty instruction
  | read => exact finishes_readLine instruction
  | printChar | printNum | printUnicode => exact finishes_printOperand _ instruction
  | random => exact finishes_randomNumber instruction
  | push => exact finishes_pushOperand instruction
  | pull => exact finishes_pull instruction
  | splitWindow | eraseLine | setTextStyle | bufferMode =>
    exact finishes_notifyOperand _ instruction
  | setWindow | eraseWindow | mouseWindow => exact finishes_notifyWindow _ instruction
  | setCursor => exact finishes_setCursor instruction
  | getCursor => exact finishes_getCursor instruction
  | outputStream => exact finishes_selectOutput instruction
  | inputStream => exact finishes_selectInput instruction
  | soundEffect => exact finishes_soundEffect instruction
  | readChar => exact finishes_readCharacter instruction
  | scanTable => exact finishes_scanTable instruction
  | tokenise => exact finishes_tokeniseBuffer instruction
  | encodeText => exact finishes_encodeText instruction
  | copyTable => exact finishes_copyTable instruction
  | printTable => exact finishes_printTable instruction
  | checkArgCount => exact finishes_checkArgumentCount instruction
  | logShift | artShift => exact finishes_shift _ instruction
  | setFont => exact finishes_setFont instruction
  | drawPicture | erasePicture => exact finishes_notifyPicture _ instruction
  | pictureData => exact finishes_pictureData instruction
  | setMargins => exact finishes_setMargins instruction
  | checkUnicode => exact finishes_checkUnicode instruction
  | setTrueColour => exact finishes_setTrueColour instruction
  | moveWindow => exact finishes_moveWindow instruction
  | windowSize => exact finishes_windowSize instruction
  | windowStyle => exact finishes_windowStyle instruction
  | getWindProp => exact finishes_getWindowProperty instruction
  | scrollWindow => exact finishes_scrollWindow instruction
  | popStack => exact finishes_popStack instruction
  | readMouse => exact finishes_readMouse instruction
  | pushStack => exact finishes_pushStack instruction
  | putWindProp => exact finishes_putWindowProperty instruction
  | printForm => exact finishes_printForm instruction
  | makeMenu => exact finishes_makeMenu instruction
  | pictureTable => exact finishes_pictureTable instruction
  | bufferScreen => exact finishes_bufferScreen instruction
  | save | restore | restart | saveExt | restoreExt | saveUndo | restoreUndo => cases plain
  | call1s | call1n | call2s | call2n | callVs | callVs2 | callVn | callVn2 => cases stays

theorem called_perform (instruction : Instruction) {operation : Operation}
    (enters : operation.calls = true) (before : Machine η) :
    Called instruction operation.arguments before (perform instruction operation before) := by
  cases operation with
  | call1s | call1n => exact called_callPlain instruction before
  | call2s | call2n => exact called_callRoutine 2 instruction before
  | callVs | callVs2 | callVn | callVn2 => exact called_callRoutine 1 instruction before
  | _ => cases enters

theorem settled_or_called_perform (instruction : Instruction) (operation : Operation)
    (before : Machine η) :
    Settled before (perform instruction operation before) ∨
      Called instruction operation.arguments before (perform instruction operation before) := by
  cases used : operation.usesSnapshots with
  | false =>
    cases enters : operation.calls with
    | false => exact .inl (finishes_perform instruction operation used enters before).settled
    | true => exact .inr (called_perform instruction enters before)
  | true =>
    cases operation with
    | save => exact .inl (settles_save instruction before)
    | restore => exact .inl (settles_restore instruction before)
    | restart => exact .inl (settles_restart before)
    | saveExt => exact .inl (settles_saveExtended instruction before)
    | restoreExt => exact .inl (settles_restoreExtended instruction before)
    | saveUndo => exact .inl (settles_takeUndo instruction before)
    | restoreUndo => exact .inl (settles_undo instruction before)
    | _ => cases used

section Onward

theorem Finished.onward {before : Machine η}
    {result : EStateM.Result Error (Machine η) Continuation} (finished : Finished before result)
    (instruction : Instruction) : Onward instruction before result :=
  .settled (.refl before) finished

theorem onward_save (instruction : Instruction) (before : Machine η) :
    Onward instruction before (save instruction before) :=
  .settled (.refl before) (finishes_finishSave instruction _ _)

theorem onward_saveExtended (instruction : Instruction) (before : Machine η) :
    Onward instruction before (saveExtended instruction before) := by
  have quiet := quiet_evaluate instruction 0 before
  cases ran : evaluate instruction 0 before with
  | error error after =>
    rw [ran] at quiet
    rw [saveExtended, bind_of_error ran]
    exact Finished.onward (.failed quiet error) instruction
  | ok operands started =>
    rw [ran] at quiet
    rw [saveExtended, bind_of_ok ran]
    exact .settled quiet (finishes_finishWith instruction _ _)

theorem onward_takeUndo (instruction : Instruction) (before : Machine η) :
    Onward instruction before (takeUndo instruction before) :=
  .settled (.refl before) (finishes_finishWith instruction 1 _)

theorem onward_perform {instruction : Instruction} {operation : Operation}
    (means : instruction.opcode.operation? = some operation) (onward : operation.goesBack = false)
    (before : Machine η) : Onward instruction before (perform instruction operation before) := by
  cases used : operation.usesSnapshots with
  | false =>
    cases enters : operation.calls with
    | false => exact Finished.onward (finishes_perform instruction operation used enters before) _
    | true => exact .called means (called_perform instruction enters before)
  | true =>
    cases operation with
    | save => exact onward_save instruction before
    | saveExt => exact onward_saveExtended instruction before
    | saveUndo => exact onward_takeUndo instruction before
    | restore | restoreExt | restoreUndo | restart => cases onward
    | _ => cases used

theorem dispatch_of_known {instruction : Instruction} {operation : Operation}
    (means : instruction.opcode.operation? = some operation) (before : Machine η) :
    dispatch instruction before =
      if operation.isAvailable before.version then perform instruction operation before
      else .error (.invalidOperation instruction.opcode.version.number
        instruction.opcode.byte.toNat instruction.opcode.mnemonic) before := by
  have known : (version : Engine η Version) before = .ok before.version before := rfl
  unfold dispatch
  simp only [means]
  rw [bind_of_ok known]
  split <;> rfl

theorem dispatch_of_available (before : Machine η) {instruction : Instruction}
    {operation : Operation} (means : instruction.opcode.operation? = some operation)
    (available : operation.isAvailable before.version = true) :
    dispatch instruction before = perform instruction operation before := by
  rw [dispatch_of_known means, if_pos available]

theorem onward_dispatch {instruction : Instruction} {before : Machine η}
    (onward : instruction.goesBack before.version = false) :
    Onward instruction before (dispatch instruction before) := by
  cases means : instruction.opcode.operation? with
  | none =>
    unfold dispatch
    simp only [means]
    exact Finished.onward (finishes_throw _ before) instruction
  | some operation =>
    rw [dispatch_of_known means]
    split
    next available =>
      rw [Instruction.goesBack, means, Option.any_some, available, Bool.true_and] at onward
      exact onward_perform means onward before
    next => exact Finished.onward (.failed (.refl before) _) instruction

end Onward

theorem settled_or_called_dispatch (instruction : Instruction) (before : Machine η) :
    Settled before (dispatch instruction before) ∨
      ∃ operation : Operation, Called instruction operation.arguments before
        (dispatch instruction before) := by
  cases means : instruction.opcode.operation? with
  | none =>
    unfold dispatch
    simp only [means]
    exact .inl (finishes_throw _ before).settled
  | some operation =>
    rw [dispatch_of_known means]
    split
    next =>
      obtain settled | called := settled_or_called_perform instruction operation before
      · exact .inl settled
      · exact .inr ⟨operation, called⟩
    next => exact .inl (Finished.failed (.refl before) _).settled

theorem performs_dispatch (instruction : Instruction) :
    Performs (dispatch instruction : Engine η Continuation) := by
  intro before
  obtain ⟨started, middle, quiet, snapshots, finished⟩ | ⟨operation, called⟩ :=
    settled_or_called_dispatch instruction before
  · exact .intro quiet snapshots finished
  · exact .called (.refl before) called

end Engine

end StoryMachine
