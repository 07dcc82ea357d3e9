import StoryMachine.Proofs.Transitions
import StoryMachine.Proofs.UpdateErrors

/-! The errors that an instruction can fail with. Execution can carry on after nearly all of them;
the fatal ones are raised for want of a frame, or of a state to restart from, and then that is what
the machine lacks. -/

namespace StoryMachine

variable {α : Type}

/-- The errors that an instruction may fail with in the state that it leaves. -/
def Machine.Admits (machine : Machine η) : Error → Prop
  | .noFrameToPop | .noActiveFrame | .returnWithoutFrame => machine.stack.isEmpty = true
  | .restartBeforeStart => machine.initial = none
  | error => error.isMild = true

theorem Machine.admits_of_recoverable (machine : Machine η) {error : Error}
    (recoverable : error.isMild = true) : machine.Admits error := by
  cases error <;> first | exact recoverable | cases recoverable

namespace Engine
open Machine

section Actions

variable {η : Type}

theorem admits_throw {error : Error} (recoverable : error.isMild = true) :
    FailsOnly Admits (throw error : Engine η α) :=
  failsOnly_throw fun machine => machine.admits_of_recoverable recoverable

theorem admits_query {read : Story → Except Error α} (mild : ∀ story, Mild (read story)) :
    FailsOnly Admits (query read : Engine η α) := by
  intro before error after failed
  cases found : read before.story with
  | ok value =>
    simp only [query, found] at failed
    cases failed
  | error other =>
    simp only [query, found] at failed
    cases failed
    exact before.admits_of_recoverable (mild before.story error found)

theorem admits_check {result : Except Error α} (mild : Mild result) :
    FailsOnly Admits (check result : Engine η α) :=
  admits_query fun _ => mild

theorem admits_update {change : Update α} (mild : FailsOnly Recoverable change) :
    FailsOnly Admits (update change : Engine η α) := by
  intro before error after failed
  cases changed : change before.story with
  | ok value story =>
    simp only [update, changed] at failed
    cases failed
  | error other story =>
    simp only [update, changed] at failed
    cases failed
    exact admits_of_recoverable _ (mild changed)

theorem admits_version : FailsOnly Admits (version : Engine η Version) :=
  failsOnly_of_ok fun before => ⟨before.version, before, rfl⟩

theorem admits_ask (question : η → α × η) : FailsOnly Admits (ask question) :=
  failsOnly_of_ok fun before =>
    ⟨(question before.host).1, { before with host := (question before.host).2 }, rfl⟩

theorem isEmpty_of_frames {stack : CallStack} (frames : stack.frames = []) :
    stack.isEmpty = true := by
  rw [CallStack.isEmpty, frames, List.isEmpty_nil]

theorem admits_queryTop : FailsOnly Admits (queryStack (·.top) : Engine η Frame) := by
  intro before error after failed
  cases frames : before.stack.frames with
  | nil =>
    simp only [queryStack, CallStack.top, frames] at failed
    cases failed
    exact isEmpty_of_frames frames
  | cons frame outer =>
    simp only [queryStack, CallStack.top, frames] at failed
    cases failed

theorem admits_updateTop {change : Frame → Except Error (α × Frame)}
    (mild : ∀ frame, Mild (change frame)) : FailsOnly Admits (updateTop change : Engine η α) := by
  intro before error after failed
  cases frames : before.stack.frames with
  | nil =>
    simp only [updateTop, updateStack, CallStack.modifyTop, frames] at failed
    cases failed
    exact isEmpty_of_frames frames
  | cons frame outer =>
    cases changed : change frame with
    | ok result =>
      simp only [updateTop, updateStack, CallStack.modifyTop, frames, changed, bind, Except.bind,
        pure, Except.pure] at failed
      cases failed
    | error other =>
      simp only [updateTop, updateStack, CallStack.modifyTop, frames, changed, bind,
        Except.bind] at failed
      cases failed
      exact before.admits_of_recoverable (mild frame error changed)

theorem admits_setPc (address : Nat) : FailsOnly Admits (setPc address : Engine η Unit) :=
  admits_updateTop fun _ => mild_ok _

end Actions

section Variables

variable {η : Type}

theorem mild_pop (frame : Frame) : Mild frame.pop := by
  unfold Frame.pop
  split
  · exact mild_ok _
  · exact mild_error rfl

theorem mild_localValue (frame : Frame) (access : LocalAccess) (number : Nat) :
    Mild (frame.localValue access number) := by
  unfold Frame.localValue
  split
  · exact mild_ok _
  · exact mild_error rfl

theorem mild_write (frame : Frame) (number : Nat) (value : UInt16) :
    Mild (frame.write number value) :=
  (mild_ok _).ite ((mild_ok _).ite (mild_error rfl))

theorem mild_peekVariable (frame : Frame) (number : Nat) : Mild (frame.peekVariable number) := by
  refine Mild.ite ?_ (mild_localValue frame .peek number)
  unfold Frame.peek
  split
  · exact mild_ok _
  · exact mild_error rfl

theorem mild_global (story : Story) (number : Nat) : Mild (story.global number) :=
  story.memory.mild_readWord _

theorem admits_readVariable (number : Nat) :
    FailsOnly Admits (readVariable number : Engine η UInt16) := by
  refine FailsOnly.ite (admits_updateTop fun frame => ?_) (admits_query (mild_global · number))
  exact (mild_pop frame).ite ((mild_localValue frame .read number).bind fun _ => mild_ok _)

theorem admits_peekVariable (number : Nat) :
    FailsOnly Admits (peekVariable number : Engine η UInt16) := by
  refine FailsOnly.ite ?_ (admits_query (mild_global · number))
  intro before error after failed
  cases frames : before.stack.frames with
  | nil =>
    simp only [queryStack, CallStack.top, frames] at failed
    cases failed
    exact isEmpty_of_frames frames
  | cons frame outer =>
    cases found : frame.peekVariable number with
    | ok value =>
      simp only [queryStack, CallStack.top, frames, found, bind, Except.bind] at failed
      cases failed
    | error other =>
      simp only [queryStack, CallStack.top, frames, found, bind, Except.bind] at failed
      cases failed
      exact before.admits_of_recoverable (mild_peekVariable frame number error found)

theorem admits_writeVariable (number : Nat) (value : UInt16) :
    FailsOnly Admits (writeVariable number value : Engine η Unit) := by
  refine FailsOnly.ite (admits_updateTop fun frame => ?_)
    (admits_update (Update.mild_setGlobal number value))
  exact (mild_write frame number value).bind fun _ => mild_ok _

theorem admits_replaceVariable (number : Nat) (value : UInt16) :
    FailsOnly Admits (replaceVariable number value : Engine η Unit) := by
  refine FailsOnly.ite (admits_updateTop fun frame => ?_)
    (admits_update (Update.mild_setGlobal number value))
  have replaced : Mild (frame.replace number value) :=
    ((mild_pop frame).bind fun _ => mild_ok _).ite (mild_write frame number value)
  exact replaced.bind fun _ => mild_ok _

theorem admits_popMany (count : Nat) : FailsOnly Admits (popMany count : Engine η Unit) := by
  induction count with
  | zero => exact failsOnly_pure ()
  | succ count ih => exact (admits_readVariable 0).bind fun _ => ih

theorem admits_evaluate (instruction : Instruction) (required : Nat) :
    FailsOnly Admits (evaluate instruction required : Engine η Operands) := by
  have values : FailsOnly Admits
      (instruction.operands.mapM operandValue : Engine η (List UInt16)) := by
    apply FailsOnly.mapM
    intro operand
    unfold operandValue
    split
    · exact failsOnly_pure _
    · exact failsOnly_pure _
    · exact admits_readVariable _
  unfold evaluate
  refine FailsOnly.ite_bind (admits_throw rfl) fun _ => ?_
  exact values.bind fun _ => failsOnly_pure _

theorem admits_storeResult (instruction : Instruction) (value : UInt16) :
    FailsOnly Admits (storeResult instruction value : Engine η Unit) := by
  unfold storeResult
  split
  · exact admits_writeVariable _ value
  · exact failsOnly_pure ()

end Variables

section Endings

variable {η : Type}

theorem admits_proceed (instruction : Instruction) :
    FailsOnly Admits (proceed instruction : Engine η Continuation) :=
  failsOnly_pure _

theorem admits_finishWith (instruction : Instruction) (value : UInt16) :
    FailsOnly Admits (finishWith instruction value : Engine η Continuation) :=
  (admits_storeResult instruction value).bind fun _ => admits_proceed instruction

theorem admits_call (address : Nat) (arguments : List UInt16) (kind : RoutineKind)
    (returnAddress : Nat) :
    FailsOnly Admits (call address arguments kind returnAddress : Engine η Continuation) := by
  unfold call
  refine FailsOnly.ite ?_ ?_
  · split
    · exact (admits_writeVariable _ 0).bind fun _ => failsOnly_pure _
    · exact failsOnly_pure _
  · refine (admits_query fun story => story.mild_routine address).bind fun routine => ?_
    exact (failsOnly_modify _).bind fun _ => failsOnly_pure _

theorem admits_returnValue (value : UInt16) :
    FailsOnly Admits (returnValue value : Engine η Continuation) := by
  have popped : FailsOnly Admits (updateStack (·.pop) : Engine η Frame) := by
    intro before error after failed
    cases frames : before.stack.frames with
    | nil =>
      simp only [updateStack, CallStack.pop, frames] at failed
      cases failed
      exact isEmpty_of_frames frames
    | cons frame outer =>
      simp only [updateStack, CallStack.pop, frames] at failed
      cases failed
  apply failsOnly_get_bind
  intro before error after failed
  split at failed
  next empty =>
    cases failed
    exact empty
  next =>
    refine FailsOnly.bind popped (fun frame => ?_) failed
    refine failsOnly_get.bind fun machine => ?_
    refine FailsOnly.ite (failsOnly_pure _) ?_
    split
    · exact (admits_writeVariable _ value).bind fun _ => failsOnly_pure _
    · exact failsOnly_pure _
    · exact failsOnly_pure _

theorem admits_throwTo (depth : Nat) (value : UInt16) :
    FailsOnly Admits (throwTo depth value : Engine η Continuation) := by
  refine failsOnly_get.bind fun machine => ?_
  refine FailsOnly.ite_bind (admits_throw rfl) fun _ => ?_
  exact (failsOnly_modify _).bind fun _ => admits_returnValue value

theorem admits_branchOn (instruction : Instruction) (condition : Bool) :
    FailsOnly Admits (branchOn instruction condition : Engine η Continuation) := by
  unfold branchOn
  split
  next => exact admits_proceed instruction
  next =>
    refine FailsOnly.ite ?_ (admits_proceed instruction)
    split
    · exact admits_returnValue 0
    · exact admits_returnValue 1
    · exact failsOnly_pure _

theorem admits_await (instruction : Instruction) (operands : Operands) (request : InputRequest) :
    FailsOnly Admits (await instruction operands request : Engine η Continuation) :=
  (failsOnly_modify _).bind fun _ => failsOnly_pure _

/-- Nothing but the operands can fail before what an operation does with them. -/
theorem FailsOnly.evaluated {instruction : Instruction} {required : Nat}
    {next : Operands → Engine η α} (there : ∀ operands, FailsOnly Admits (next operands)) :
    FailsOnly Admits (evaluate instruction required >>= next) :=
  (admits_evaluate instruction required).bind there

/-- An operation that stores what it reads from the story. -/
theorem admits_store {read : Story → Except Error α} (mild : ∀ story, Mild (read story))
    (instruction : Instruction) (value : α → UInt16) :
    FailsOnly Admits (do
      let found ← query read
      finishWith instruction (value found) : Engine η Continuation) :=
  (admits_query mild).bind fun _ => admits_finishWith instruction _

/-- An operation that changes the story and goes on. -/
theorem admits_change {change : Update α} (mild : FailsOnly Recoverable change)
    (instruction : Instruction) :
    FailsOnly Admits (update change >>= fun _ => proceed instruction : Engine η Continuation) :=
  (admits_update mild).bind fun _ => admits_proceed instruction

end Endings

section Plain

variable {η : Type}

theorem admits_divide {byZero : Error} (recoverable : byZero.isMild = true)
    (function : UInt16 → UInt16 → UInt16) (instruction : Instruction) :
    FailsOnly Admits (divide byZero function instruction : Engine η Continuation) := by
  refine FailsOnly.evaluated fun operands => ?_
  exact (admits_throw recoverable).ite_bind fun _ => admits_finishWith instruction _

theorem admits_shift (function : UInt16 → Int → UInt16) (instruction : Instruction) :
    FailsOnly Admits (shift function instruction : Engine η Continuation) := by
  refine FailsOnly.evaluated fun operands => ?_
  exact FailsOnly.ite_bind (admits_throw rfl) fun _ => admits_finishWith instruction _

theorem admits_stepAndBranch (step : UInt16 → UInt16) (test : UInt16 → UInt16 → Bool)
    (instruction : Instruction) :
    FailsOnly Admits (stepAndBranch step test instruction : Engine η Continuation) := by
  refine FailsOnly.evaluated fun operands => ?_
  refine (admits_peekVariable _).bind fun value => ?_
  exact (admits_replaceVariable _ _).bind fun _ => admits_branchOn instruction _

theorem admits_callPacked (instruction : Instruction) (packed : UInt16)
    (arguments : List UInt16) :
    FailsOnly Admits (callPacked instruction packed arguments : Engine η Continuation) :=
  failsOnly_get.bind fun _ => admits_call _ _ _ _

theorem admits_checkArgumentCount (instruction : Instruction) :
    FailsOnly Admits (checkArgumentCount instruction : Engine η Continuation) := by
  refine FailsOnly.evaluated fun operands => ?_
  exact admits_queryTop.bind fun top => admits_branchOn instruction _

theorem admits_storeLinkAndBranch (link : Link) (instruction : Instruction) :
    FailsOnly Admits (storeLinkAndBranch link instruction : Engine η Continuation) := by
  refine FailsOnly.evaluated fun operands => ?_
  refine (admits_query fun story => story.mild_link link _).bind fun object => ?_
  exact (admits_storeResult instruction _).bind fun _ => admits_branchOn instruction _

theorem admits_branchInside (instruction : Instruction) :
    FailsOnly Admits (branchInside instruction : Engine η Continuation) := by
  refine FailsOnly.evaluated fun operands => ?_
  refine (admits_query fun story => story.mild_link .parent _).bind fun parent => ?_
  exact admits_branchOn instruction _

theorem admits_testAttribute (instruction : Instruction) :
    FailsOnly Admits (testAttribute instruction : Engine η Continuation) := by
  refine FailsOnly.evaluated fun operands => ?_
  refine (admits_query fun story => story.mild_hasAttribute _ _).bind fun isSet => ?_
  exact admits_branchOn instruction isSet

theorem admits_storeProperty {read : Story → (object number : Nat) → Except Error UInt16}
    (mild : ∀ story object number, Mild (read story object number)) (instruction : Instruction) :
    FailsOnly Admits (storeProperty read instruction : Engine η Continuation) :=
  FailsOnly.evaluated fun _ => admits_store (fun story => mild story _ _) instruction id

theorem admits_stepVariable (step : UInt16 → UInt16) (instruction : Instruction) :
    FailsOnly Admits (stepVariable step instruction : Engine η Continuation) := by
  refine FailsOnly.evaluated fun operands => ?_
  refine (admits_peekVariable _).bind fun value => ?_
  exact (admits_replaceVariable _ _).bind fun _ => admits_proceed instruction

theorem admits_pull (instruction : Instruction) :
    FailsOnly Admits (pull instruction : Engine η Continuation) := by
  refine admits_version.bind fun version => ?_
  refine FailsOnly.ite ?_ ?_
  · refine FailsOnly.evaluated fun operands => ?_
    split
    · exact (admits_update (Update.mild_popUserStack _)).bind fun value =>
        admits_finishWith instruction value
    · exact (admits_readVariable 0).bind fun value => admits_finishWith instruction value
  · refine FailsOnly.evaluated fun operands => ?_
    refine (admits_readVariable 0).bind fun value => ?_
    exact (admits_replaceVariable _ value).bind fun _ => admits_proceed instruction

theorem admits_popStack (instruction : Instruction) :
    FailsOnly Admits (popStack instruction : Engine η Continuation) := by
  refine FailsOnly.evaluated fun operands => ?_
  split
  · exact admits_change (Update.mild_dropUserStack _ _) instruction
  · exact (admits_popMany _).bind fun _ => admits_proceed instruction

theorem admits_scanTable (instruction : Instruction) :
    FailsOnly Admits (scanTable instruction : Engine η Continuation) := by
  refine FailsOnly.evaluated fun operands => ?_
  refine (admits_query fun story => story.memory.mild_scanTable _ _ _ _).bind fun found => ?_
  exact (admits_storeResult instruction _).bind fun _ => admits_branchOn instruction _

theorem admits_windowOperand (operands : Operands) (index : Nat) :
    FailsOnly Admits (windowOperand operands index : Engine η Int16) := by
  unfold windowOperand
  split
  · exact admits_check (mild_checkWindow _)
  · exact failsOnly_pure _

theorem admits_windowOperandV6 (operands : Operands) (index : Nat) :
    FailsOnly Admits (windowOperandV6 operands index : Engine η Int16) :=
  admits_version.bind fun _ => (admits_windowOperand operands index).ite (failsOnly_pure _)

/-- What an operation does in the window that its first operand names. -/
theorem admits_inWindow {value : UInt16} {next : Int16 → Engine η Continuation}
    (there : ∀ window, FailsOnly Admits (next window)) :
    FailsOnly Admits (check (checkWindow value) >>= next) :=
  (admits_check (mild_checkWindow value)).bind there

theorem admits_finishSave (instruction : Instruction) (success : Bool) :
    FailsOnly Admits (finishSave instruction success : Engine η Continuation) :=
  (admits_branchOn instruction success).ite (admits_finishWith instruction _)

theorem admits_resumeAfter (address : Nat) :
    FailsOnly Admits (resumeAfter address : Engine η Continuation) := by
  refine (admits_query fun story => story.mild_decodeInstruction address).bind fun found => ?_
  exact (admits_branchOn found true).ite (admits_finishWith found 2)

theorem admits_noteClick (value : InputValue) :
    FailsOnly Admits (noteClick value : Engine η Unit) := by
  have noted (entry : ExtensionWord) (place : UInt16) : FailsOnly Admits
      (update (Update.modifyMemory (·.setExtension entry place)) : Engine η Unit) :=
    admits_update (Update.mild_modifyMemory fun memory => memory.mild_setExtension entry place)
  cases value with
  | mouseClick column row => exact (noted _ column).bind fun _ => noted _ row
  | character | special => exact failsOnly_pure ()

end Plain

section Host

variable {η : Type} [Host η]

theorem admits_notify (notice : Notice) : FailsOnly Admits (notify notice : Engine η Unit) :=
  failsOnly_modify _

/-- An operation that tells the presentation something and goes on. -/
theorem admits_tell (notice : Notice) (instruction : Instruction) :
    FailsOnly Admits (notify notice >>= fun _ => proceed instruction : Engine η Continuation) :=
  (admits_notify notice).bind fun _ => admits_proceed instruction

/-- Reporting an error either survives it or fails with it, and nothing else has happened then. -/
theorem report_eq_error {error other : Error} {before after : Machine η}
    (failed : report error before = .error other after) : other = error ∧ after = before := by
  rw [report, get_bind] at failed
  split at failed
  next =>
    cases failed
    exact ⟨rfl, rfl⟩
  next =>
    split at failed
    next =>
      cases failed
      exact ⟨rfl, rfl⟩
    next => cases failed
    next => split at failed <;> cases failed
    next => cases failed

theorem admits_report {error : Error} (recoverable : error.isMild = true) :
    FailsOnly Admits (report error : Engine η Unit) := by
  intro before other after failed
  obtain ⟨rfl, rfl⟩ := report_eq_error failed
  exact admits_of_recoverable _ recoverable

/-- A text whose warnings are recoverable is decoded and its warnings are reported. -/
theorem admits_decoded {read : Story → Except Error Decoded} (mild : ∀ story, Mild (read story))
    (benign : ∀ story decoded, read story = .ok decoded → decoded.Benign) :
    FailsOnly Admits (do
      let decoded ← query read
      reportAll decoded.warnings
      return decoded.text : Engine η (List Zscii)) := by
  intro before error after failed
  cases found : read before.story with
  | error other =>
    have refused : (query read : Engine η Decoded) before = .error other before := by
      simp only [query, found]
    rw [bind_of_error refused] at failed
    cases failed
    exact before.admits_of_recoverable (mild _ error found)
  | ok decoded =>
    have ran : (query read : Engine η Decoded) before = .ok decoded before := by
      simp only [query, found]
    have reported : FailsOnly Admits (reportAll decoded.warnings : Engine η Unit) :=
      FailsOnly.forM fun warning member => admits_report (benign _ decoded found warning member)
    rw [bind_of_ok ran] at failed
    exact reported.bind (fun _ => failsOnly_pure decoded.text) failed

theorem admits_decodeWords (words : List UInt16) :
    FailsOnly Admits (decodeWords words : Engine η (List Zscii)) :=
  admits_decoded (fun story => story.mild_decodeWords words)
    fun story _ => story.benign_decodeWords

theorem admits_decodeAt (address : Nat) :
    FailsOnly Admits (decodeAt address : Engine η (List Zscii)) :=
  admits_decoded (fun story => story.mild_decodeAt address) fun story _ => story.benign_decodeAt

theorem admits_emit (shown : Notice) (text : List Zscii) :
    FailsOnly Admits (emit shown text : Engine η Unit) := by
  refine failsOnly_get.bind fun machine => ?_
  split
  · exact failsOnly_set _
  · refine (admits_notify shown).ite_bind fun _ => ?_
    exact (admits_notify _).ite (failsOnly_pure ())

theorem admits_print (text : List Zscii) : FailsOnly Admits (print text : Engine η Unit) :=
  admits_emit _ text

theorem admits_newLine : FailsOnly Admits (newLine : Engine η Unit) :=
  admits_emit _ _

theorem admits_selectStream (stream : Int16) (table : Option Nat) :
    FailsOnly Admits (selectStream stream table : Engine η Unit) := by
  have told (_ : Unit) : FailsOnly Admits (notify (.outputStream stream) : Engine η Unit) :=
    admits_notify _
  have opened : FailsOnly Admits (openCapture table : Engine η Unit) := by
    unfold openCapture
    split
    · exact admits_throw rfl
    · refine failsOnly_get.bind fun machine => ?_
      exact FailsOnly.ite_bind (admits_throw rfl) fun _ => failsOnly_modify _
  have closed : FailsOnly Admits (closeCapture : Engine η Unit) := by
    refine failsOnly_get.bind fun machine => ?_
    split
    · exact failsOnly_pure ()
    · exact (failsOnly_set _).bind fun _ => admits_update (Update.mild_writeCapture _)
  unfold selectStream
  split
  · exact (failsOnly_modify _).bind told
  · exact (failsOnly_modify _).bind told
  · exact (admits_update (Update.mild_setHeaderWord _ _)).bind told
  · exact (admits_update (Update.mild_setHeaderWord _ _)).bind told
  · exact opened.bind told
  · exact closed.bind told
  · exact (failsOnly_modify _).bind told
  · exact (failsOnly_modify _).bind told
  · exact FailsOnly.bind (admits_throw rfl) told

theorem admits_showStatus : FailsOnly Admits (showStatus : Engine η Unit) := by
  have rest (left : List Zscii) : FailsOnly Admits (do
      let first ← peekVariable (firstGlobal + 1)
      let second ← peekVariable (firstGlobal + 2)
      let isTime := (← get).story.memory.hasFlag1 EarlyFlag.statusLineType
      let right := if isTime then renderTime first second else renderScore first second
      notify (.showStatus left (Zscii.ofString right)) : Engine η Unit) := by
    refine (admits_peekVariable _).bind fun first => ?_
    refine (admits_peekVariable _).bind fun second => ?_
    exact failsOnly_get.bind fun machine => admits_notify _
  refine (admits_peekVariable _).bind fun object => ?_
  refine FailsOnly.ite ((failsOnly_pure []).bind rest) ?_
  refine (admits_query fun story => story.mild_shortName _).bind fun name => ?_
  exact (admits_decodeWords name).bind rest

theorem admits_printFollowing (instruction : Instruction) :
    FailsOnly Admits (printFollowing instruction : Engine η Unit) := by
  refine (admits_query fun story => story.memory.mild_textWords _).bind fun words => ?_
  exact (admits_decodeWords words).bind fun text => admits_print text

theorem admits_printRows (width skip : Nat) (cursor : UInt16 × UInt16)
    (address index count : Nat) :
    FailsOnly Admits (printRows width skip cursor address index count : Engine η Unit) := by
  induction count generalizing address index with
  | zero => exact failsOnly_pure ()
  | succ count ih =>
    have row (_ : Unit) : FailsOnly Admits (do
        let row ← query (·.memory.readBytes address width)
        print (row.map UInt8.toUInt16)
        printRows width skip cursor (address + width + skip) (index + 1) count :
        Engine η Unit) := by
      refine (admits_query fun story => story.memory.mild_readBytes address width).bind ?_
      exact fun _ => (admits_print _).bind fun _ => ih _ _
    unfold printRows
    refine FailsOnly.ite ?_ (row ())
    refine failsOnly_get.bind fun machine => ?_
    exact ((admits_notify _).bind row).ite (admits_newLine.bind row)

theorem admits_tokenise (textBuffer parseBuffer dictionary : Nat) (skipUnknown : Bool) :
    FailsOnly Admits
      (tokenise textBuffer parseBuffer dictionary skipUnknown : Engine η Unit) := by
  refine (admits_query fun story => story.mild_separators dictionary).bind fun separators => ?_
  refine (admits_query fun story => story.mild_bufferText textBuffer).bind fun text => ?_
  refine (admits_query fun story => story.memory.mild_readByte _).bind fun capacity => ?_
  refine (admits_update (Update.mild_writeTokens _ _ _ _)).bind fun _ => ?_
  refine FailsOnly.ite_bind (admits_report rfl) fun _ => ?_
  exact admits_update (Update.mild_writeByte _ _)

theorem admits_random (range : Int16) : FailsOnly Admits (random range : Engine η UInt16) := by
  apply failsOnly_of_ok
  intro before
  rw [random]
  split
  · exact ⟨_, _, rfl⟩
  · exact ⟨_, _, rfl⟩

end Host

section Operations

variable {η : Type} [Host η]

theorem admits_randomNumber (instruction : Instruction) :
    FailsOnly Admits (randomNumber instruction : Engine η Continuation) := by
  refine FailsOnly.evaluated fun operands => ?_
  exact (admits_random _).bind fun _ => admits_finishWith instruction _

theorem admits_printAt (address : Story → UInt16 → Nat) (instruction : Instruction) :
    FailsOnly Admits (printAt address instruction : Engine η Continuation) := by
  refine FailsOnly.evaluated fun operands => ?_
  refine failsOnly_get.bind fun machine => ?_
  refine (admits_decodeAt _).bind fun text => ?_
  exact (admits_print text).bind fun _ => admits_proceed instruction

theorem admits_printObject (instruction : Instruction) :
    FailsOnly Admits (printObject instruction : Engine η Continuation) := by
  refine FailsOnly.evaluated fun operands => ?_
  refine (admits_query fun story => story.mild_shortName _).bind fun name => ?_
  refine (admits_decodeWords name).bind fun text => ?_
  exact (admits_print text).bind fun _ => admits_proceed instruction

theorem admits_printForm (instruction : Instruction) :
    FailsOnly Admits (printForm instruction : Engine η Continuation) := by
  refine FailsOnly.evaluated fun operands => ?_
  refine failsOnly_get.bind fun machine => ?_
  have line (text : List Zscii) (_ : PUnit) : FailsOnly Admits (do
      print text
      newLine
      pure (ForInStep.yield PUnit.unit) : Engine η (ForInStep PUnit)) :=
    (admits_print text).bind fun _ => admits_newLine.bind fun _ => failsOnly_pure _
  refine (FailsOnly.forIn line _ _).bind fun _ => ?_
  split
  next error found =>
    have recoverable := machine.story.memory.mild_formLines operands.first.toNat error found
    exact (admits_throw recoverable).bind fun _ => admits_proceed instruction
  next => exact admits_proceed instruction

theorem admits_readLine (instruction : Instruction) :
    FailsOnly Admits (readLine instruction : Engine η Continuation) := by
  refine FailsOnly.evaluated fun operands => ?_
  refine admits_version.bind fun version => ?_
  refine admits_showStatus.ite_bind fun _ => ?_
  refine (admits_query fun story => story.mild_bufferCapacity _).bind fun capacity => ?_
  refine (admits_query fun story => story.mild_preloaded _ capacity).bind fun preloaded => ?_
  refine (admits_query fun story => story.mild_terminators).bind fun terminators => ?_
  exact failsOnly_get.bind fun machine => admits_await instruction operands _

theorem admits_finishLine (instruction : Instruction) (operands : Operands) (line : List Zscii)
    (terminator : Zscii) :
    FailsOnly Admits (finishLine instruction operands line terminator :
      Engine η Continuation) := by
  have stored (_ : Unit) : FailsOnly Admits (do
      if .v5 ≤ (← version) then
        storeResult instruction terminator
      proceed instruction : Engine η Continuation) := by
    refine admits_version.bind fun version => ?_
    exact (admits_storeResult instruction terminator).ite_bind fun _ => admits_proceed instruction
  refine (admits_update (Update.mild_writeLine _ line)).bind fun _ => ?_
  refine FailsOnly.ite (failsOnly_get.bind fun machine => ?_) (stored ())
  exact (admits_tokenise _ _ _ _).bind stored

theorem admits_setColour (instruction : Instruction) :
    FailsOnly Admits (setColour instruction : Engine η Continuation) := by
  refine FailsOnly.evaluated fun operands => ?_
  refine (admits_check (mild_checkColour _)).bind fun foreground => ?_
  refine (admits_check (mild_checkColour _)).bind fun background => ?_
  exact (admits_windowOperandV6 operands 2).bind fun window => admits_tell _ instruction

theorem admits_soundEffect (instruction : Instruction) :
    FailsOnly Admits (soundEffect instruction : Engine η Continuation) := by
  refine FailsOnly.evaluated fun operands => ?_
  refine FailsOnly.ite (admits_tell _ instruction) ?_
  refine FailsOnly.ite_bind (admits_throw rfl) fun _ => ?_
  exact failsOnly_get.bind fun machine => admits_tell _ instruction

theorem admits_pictureData (instruction : Instruction) :
    FailsOnly Admits (pictureData instruction : Engine η Continuation) := by
  refine FailsOnly.evaluated fun operands => ?_
  refine (admits_ask _).bind fun size => ?_
  split
  · exact (admits_update (Update.mild_writeWords _ _)).bind fun _ =>
      admits_branchOn instruction true
  · exact admits_branchOn instruction false

theorem admits_windowSize (instruction : Instruction) :
    FailsOnly Admits (windowSize instruction : Engine η Continuation) := by
  refine FailsOnly.evaluated fun operands => admits_inWindow fun window => ?_
  exact FailsOnly.ite_bind (admits_throw rfl) fun _ => admits_tell _ instruction

theorem admits_windowStyle (instruction : Instruction) :
    FailsOnly Admits (windowStyle instruction : Engine η Continuation) := by
  refine FailsOnly.evaluated fun operands => admits_inWindow fun window => ?_
  exact FailsOnly.ite_bind (admits_throw rfl) fun _ => admits_tell _ instruction

theorem admits_getWindowProperty (instruction : Instruction) :
    FailsOnly Admits (getWindowProperty instruction : Engine η Continuation) := by
  refine FailsOnly.evaluated fun operands => admits_inWindow fun window => ?_
  refine (admits_check (mild_checkWindowProperty _)).bind fun property => ?_
  exact (admits_ask _).bind fun value => admits_finishWith instruction value

theorem admits_putWindowProperty (instruction : Instruction) :
    FailsOnly Admits (putWindowProperty instruction : Engine η Continuation) := by
  refine FailsOnly.evaluated fun operands => admits_inWindow fun window => ?_
  refine (admits_check (mild_checkWindowProperty _)).bind fun property => ?_
  exact admits_tell _ instruction

theorem admits_makeMenu (instruction : Instruction) :
    FailsOnly Admits (makeMenu instruction : Engine η Continuation) := by
  have made (items : List (List Zscii)) (menu : UInt16) : FailsOnly Admits (do
      let made ← ask (Presentation.makeMenu menu items)
      branchOn instruction made : Engine η Continuation) :=
    (admits_ask _).bind fun made => admits_branchOn instruction made
  refine FailsOnly.evaluated fun operands => ?_
  refine FailsOnly.ite_bind (admits_throw rfl) fun _ => ?_
  refine FailsOnly.ite ((failsOnly_pure []).bind fun items => made items _) ?_
  exact (admits_query fun story => story.memory.mild_menuItems _).bind fun items => made items _

end Operations

section Saving

variable {η : Type} [Host η]

theorem admits_of_archives {action : Engine η α} (archives : Archives action) :
    FailsOnly Admits action := by
  apply failsOnly_of_ok
  intro before
  obtain ⟨value, after, ran, -⟩ := archives before
  exact ⟨value, after, ran⟩

/-- An operation that goes on after a restored state, or as if it had not tried. -/
theorem admits_resume {action : Engine η (Option Nat)} (archives : Archives action)
    {otherwise : Engine η Continuation} (missed : FailsOnly Admits otherwise) :
    FailsOnly Admits (do
      match ← action with
      | some address => resumeAfter address
      | none => otherwise : Engine η Continuation) := by
  refine (admits_of_archives archives).bind fun found => ?_
  split
  · exact admits_resumeAfter _
  · exact missed

theorem admits_restart : FailsOnly Admits (restart : Engine η Continuation) := by
  have resumed (snapshot : Snapshot) (flags : UInt16) : FailsOnly Admits (do
      update (Update.modifyMemory (·.replace snapshot.image))
      update (Update.modifyMemory fun memory => .ok (memory.setHeaderWord .flags2 flags))
      modify fun machine =>
        let generator := Generator.reset ⟨machine.randomMode, machine.host⟩
          machine.config.randomSeed
        { machine with
          stack := snapshot.stack
          captures := []
          randomMode := generator.mode
          host := generator.source }
      notify .reset
      let top ← queryStack (·.top)
      return .goto top.pc : Engine η Continuation) := by
    refine (admits_update (Update.mild_modifyMemory fun memory => ?_)).bind fun _ => ?_
    · exact memory.mild_replace snapshot.image
    refine (admits_update (Update.mild_setHeaderWord _ _)).bind fun _ => ?_
    refine (failsOnly_modify _).bind fun _ => ?_
    refine (admits_notify .reset).bind fun _ => ?_
    exact admits_queryTop.bind fun top => failsOnly_pure _
  apply failsOnly_get_bind
  intro before error after failed
  cases initial : before.initial with
  | none =>
    simp only [initial] at failed
    cases failed
    exact initial
  | some snapshot =>
    simp only [initial] at failed
    exact resumed snapshot _ failed

end Saving

section Dispatch

variable {η : Type} [Host η]

theorem admits_perform (instruction : Instruction) (operation : Operation) :
    FailsOnly Admits (perform instruction operation : Engine η Continuation) := by
  unfold perform
  cases operation with
  | je | jl | jg | test | jz =>
    exact FailsOnly.evaluated fun _ => admits_branchOn instruction _
  | decChk | incChk => exact admits_stepAndBranch _ _ instruction
  | jin => exact admits_branchInside instruction
  | bitOr | bitAnd | add | sub | mul | bitNot | bitNotVar | checkUnicode | bufferScreen =>
    exact FailsOnly.evaluated fun _ => admits_finishWith instruction _
  | testAttr => exact admits_testAttribute instruction
  | setAttr =>
    exact FailsOnly.evaluated fun _ => admits_change (Update.mild_setAttribute _ _) instruction
  | clearAttr =>
    exact FailsOnly.evaluated fun _ => admits_change (Update.mild_clearAttribute _ _) instruction
  | store =>
    exact FailsOnly.evaluated fun _ =>
      (admits_replaceVariable _ _).bind fun _ => admits_proceed instruction
  | insertObj =>
    exact FailsOnly.evaluated fun _ => admits_change (Update.mild_insertObject _ _) instruction
  | removeObj =>
    exact FailsOnly.evaluated fun _ => admits_change (Update.mild_removeObject _) instruction
  | loadw =>
    exact FailsOnly.evaluated fun _ =>
      admits_store (fun story => story.memory.mild_readWord _) instruction id
  | loadb =>
    exact FailsOnly.evaluated fun _ =>
      admits_store (fun story => story.memory.mild_readByte _) instruction UInt8.toUInt16
  | getProp => exact admits_storeProperty Story.mild_propertyValue instruction
  | getPropAddr =>
    exact admits_storeProperty
      (fun story _ _ => (story.mild_propertyDataAddress _ _).map _) instruction
  | getNextProp =>
    exact admits_storeProperty (fun story _ _ => (story.mild_nextProperty _ _).map _) instruction
  | getParent =>
    exact FailsOnly.evaluated fun _ =>
      admits_store (fun story => story.mild_link .parent _) instruction UInt16.ofNat
  | getPropLen =>
    exact FailsOnly.evaluated fun _ =>
      admits_store (fun story => story.mild_propertyLength _) instruction UInt16.ofNat
  | div | mod => exact admits_divide rfl _ instruction
  | call1s | call1n | call2s | call2n | callVs | callVs2 | callVn | callVn2 =>
    exact FailsOnly.evaluated fun _ => admits_callPacked instruction _ _
  | setColour => exact admits_setColour instruction
  | throwTo => exact FailsOnly.evaluated fun _ => admits_throwTo _ _
  | getSibling | getChild => exact admits_storeLinkAndBranch _ instruction
  | inc | dec => exact admits_stepVariable _ instruction
  | printAddr | printPaddr => exact admits_printAt _ instruction
  | printObj => exact admits_printObject instruction
  | ret => exact FailsOnly.evaluated fun _ => admits_returnValue _
  | jump => exact FailsOnly.evaluated fun _ => failsOnly_pure _
  | load =>
    exact FailsOnly.evaluated fun _ =>
      (admits_peekVariable _).bind fun _ => admits_finishWith instruction _
  | rtrue => exact admits_returnValue 1
  | rfalse => exact admits_returnValue 0
  | print =>
    exact (admits_printFollowing instruction).bind fun _ => admits_proceed instruction
  | printRet =>
    exact (admits_printFollowing instruction).bind fun _ =>
      admits_newLine.bind fun _ => admits_returnValue 1
  | nop => exact admits_proceed instruction
  | retPopped => exact (admits_readVariable 0).bind fun _ => admits_returnValue _
  | pop => exact (admits_readVariable 0).bind fun _ => admits_proceed instruction
  | catchFrame => exact failsOnly_get.bind fun _ => admits_finishWith instruction _
  | quit => exact failsOnly_pure _
  | newLine => exact admits_newLine.bind fun _ => admits_proceed instruction
  | showStatus =>
    exact admits_version.bind fun _ =>
      admits_showStatus.ite_bind fun _ => admits_proceed instruction
  | verify => exact failsOnly_get.bind fun _ => admits_branchOn instruction _
  | piracy => exact admits_branchOn instruction true
  | storew =>
    exact FailsOnly.evaluated fun _ => admits_change (Update.mild_writeWord _ _) instruction
  | storeb =>
    exact FailsOnly.evaluated fun _ => admits_change (Update.mild_writeByte _ _) instruction
  | putProp =>
    exact FailsOnly.evaluated fun _ => admits_change (Update.mild_setProperty _ _ _) instruction
  | read => exact admits_readLine instruction
  | readChar =>
    exact FailsOnly.evaluated fun _ =>
      failsOnly_get.bind fun _ => admits_await instruction _ _
  | printChar | printNum | printUnicode =>
    exact FailsOnly.evaluated fun _ =>
      (admits_print _).bind fun _ => admits_proceed instruction
  | random => exact admits_randomNumber instruction
  | push =>
    exact FailsOnly.evaluated fun _ =>
      (admits_updateTop fun _ => mild_ok _).bind fun _ => admits_proceed instruction
  | pull => exact admits_pull instruction
  | splitWindow | eraseLine | setTextStyle | bufferMode | drawPicture | erasePicture =>
    exact FailsOnly.evaluated fun _ => admits_tell _ instruction
  | setWindow | eraseWindow | mouseWindow | moveWindow | scrollWindow =>
    exact FailsOnly.evaluated fun _ => admits_inWindow fun _ => admits_tell _ instruction
  | setCursor | setTrueColour =>
    exact FailsOnly.evaluated fun _ =>
      (admits_windowOperandV6 _ 2).bind fun _ => admits_tell _ instruction
  | setMargins =>
    exact FailsOnly.evaluated fun _ =>
      (admits_windowOperand _ 2).bind fun _ => admits_tell _ instruction
  | getCursor | readMouse =>
    exact FailsOnly.evaluated fun _ => (admits_ask _).bind fun _ =>
      admits_change (Update.mild_writeWords _ _) instruction
  | outputStream =>
    exact FailsOnly.evaluated fun _ =>
      (admits_selectStream _ _).bind fun _ => admits_proceed instruction
  | inputStream => exact FailsOnly.evaluated fun _ => admits_proceed instruction
  | soundEffect => exact admits_soundEffect instruction
  | scanTable => exact admits_scanTable instruction
  | tokenise =>
    exact FailsOnly.evaluated fun _ => failsOnly_get.bind fun _ =>
      (admits_tokenise _ _ _ _).bind fun _ => admits_proceed instruction
  | encodeText =>
    exact FailsOnly.evaluated fun _ => admits_change (Update.mild_encodeText _ _ _ _) instruction
  | copyTable =>
    exact FailsOnly.evaluated fun _ => admits_change (Update.mild_copyTable _ _ _) instruction
  | printTable =>
    exact FailsOnly.evaluated fun _ => (admits_ask _).bind fun _ =>
      (admits_printRows _ _ _ _ _ _).bind fun _ => admits_proceed instruction
  | checkArgCount => exact admits_checkArgumentCount instruction
  | save =>
    exact (admits_of_archives (archives_saveGame _)).bind fun _ => admits_finishSave instruction _
  | restore => exact admits_resume archives_restoreGame (admits_finishSave instruction false)
  | restart => exact admits_restart
  | saveExt =>
    exact FailsOnly.evaluated fun _ =>
      (admits_of_archives (archives_saveGame _)).bind fun _ => admits_finishWith instruction _
  | restoreExt =>
    exact FailsOnly.evaluated fun _ =>
      admits_resume archives_restoreGame (admits_finishWith instruction 0)
  | saveUndo =>
    exact (admits_of_archives (archives_saveUndo _)).bind fun _ => admits_finishWith instruction 1
  | restoreUndo => exact admits_resume archives_restoreUndo (admits_finishWith instruction 0)
  | logShift | artShift => exact admits_shift _ instruction
  | setFont =>
    exact FailsOnly.evaluated fun _ =>
      (admits_ask _).bind fun _ => admits_finishWith instruction _
  | pictureData => exact admits_pictureData instruction
  | windowSize => exact admits_windowSize instruction
  | windowStyle => exact admits_windowStyle instruction
  | getWindProp => exact admits_getWindowProperty instruction
  | popStack => exact admits_popStack instruction
  | pushStack =>
    exact FailsOnly.evaluated fun _ =>
      (admits_update (Update.mild_pushUserStack _ _)).bind fun _ => admits_branchOn instruction _
  | putWindProp => exact admits_putWindowProperty instruction
  | printForm => exact admits_printForm instruction
  | makeMenu => exact admits_makeMenu instruction
  | pictureTable =>
    exact FailsOnly.evaluated fun _ =>
      (admits_query fun story => story.memory.mild_wordsUntilZero _).bind fun _ =>
        admits_tell _ instruction

theorem admits_dispatch (instruction : Instruction) :
    FailsOnly Admits (dispatch instruction : Engine η Continuation) := by
  unfold dispatch
  dsimp only
  split
  next => exact admits_throw rfl
  next operation _ =>
    refine admits_version.bind fun version => ?_
    exact (admits_perform instruction operation).ite (admits_throw rfl)

/-- A fatal error that an instruction fails with is not survived, and a recoverable one leads to
nothing worse. -/
theorem admits_carryOn (instruction : Instruction) {action : Engine η Continuation}
    (here : FailsOnly Admits action) : FailsOnly Admits (carryOn instruction action) := by
  intro before error after failed
  cases ran : action before with
  | ok next middle =>
    rw [carryOn, tryCatch_of_ok ran] at failed
    cases failed
  | error other middle =>
    rw [carryOn, tryCatch_of_error ran] at failed
    cases reported : report other middle with
    | ok _ survived =>
      rw [degrade, bind_of_ok reported] at failed
      exact admits_finishWith instruction 0 failed
    | error same stopped =>
      rw [degrade, bind_of_error reported] at failed
      cases failed
      obtain ⟨rfl, rfl⟩ := report_eq_error reported
      exact here ran

theorem admits_deliver (pending : PendingRead) (terminator : Zscii) :
    FailsOnly Admits (deliver pending terminator : Engine η Continuation) := by
  unfold deliver
  split
  next => exact admits_finishWith _ terminator
  next =>
    refine failsOnly_get.bind fun machine => ?_
    refine (admits_notify _).ite_bind fun _ => ?_
    exact (admits_notify _).ite_bind fun _ => admits_finishLine _ _ _ terminator

end Dispatch

end Engine

end StoryMachine
