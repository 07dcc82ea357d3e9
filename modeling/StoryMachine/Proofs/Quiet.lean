import Mathlib.Logic.Relation
import StoryMachine.Proofs.StaticUpdates

/-! Most of what the machine does is quiet: it writes dynamic memory and the innermost frame, keeps
text for tables and talks to the host, but it calls nothing, returns from nothing, waits for nothing
and touches no snapshot. -/

namespace StoryMachine

inductive Consulted [Host η] : η → η → Prop where
  | notified (notice : Notice) (host : η) : Consulted host (Presentation.notify notice host)
  | cursor (host : η) : Consulted host (Presentation.cursor host).2
  | font (font : UInt16) (host : η) : Consulted host (Presentation.setFont font host).2
  | picture (picture : UInt16) (host : η) : Consulted host (Presentation.pictureData picture host).2
  | property (window : Int16) (property : UInt16) (host : η) :
      Consulted host (Presentation.windowProperty window property host).2
  | mouse (host : η) : Consulted host (Presentation.readMouse host).2
  | menu (number : UInt16) (items : List (List Zscii)) (host : η) :
      Consulted host (Presentation.makeMenu number items host).2
  | drawn (host : η) : Consulted host (RandomSource.draw host).2
  | seeded (seed : UInt64) (host : η) : Consulted host (RandomSource.seed seed host)

/-- The same activation of a routine, with other values in its variables. -/
structure Frame.SameActivation (before after : Frame) : Prop where
  kind : after.kind = before.kind
  address : after.address = before.address
  pc : after.pc = before.pc
  locals : after.locals.length = before.locals.length
  argumentCount : after.argumentCount = before.argumentCount
  returnAddress : after.returnAddress = before.returnAddress

namespace Frame.SameActivation

variable {first second third : Frame}

theorem refl (frame : Frame) : SameActivation frame frame :=
  ⟨rfl, rfl, rfl, rfl, rfl, rfl⟩

theorem trans (here : SameActivation first second) (there : SameActivation second third) :
    SameActivation first third where
  kind := there.kind.trans here.kind
  address := there.address.trans here.address
  pc := there.pc.trans here.pc
  locals := there.locals.trans here.locals
  argumentCount := there.argumentCount.trans here.argumentCount
  returnAddress := there.returnAddress.trans here.returnAddress

theorem push (frame : Frame) (value : UInt16) : SameActivation frame (frame.push value) :=
  ⟨rfl, rfl, rfl, rfl, rfl, rfl⟩

theorem pop {frame after : Frame} {value : UInt16} (popped : frame.pop = .ok (value, after)) :
    SameActivation frame after := by
  rw [Frame.pop] at popped
  split at popped
  next =>
    cases popped
    exact ⟨rfl, rfl, rfl, rfl, rfl, rfl⟩
  next => cases popped

theorem read {frame after : Frame} {number : Nat} {value : UInt16}
    (found : frame.read number = .ok (value, after)) : SameActivation frame after := by
  rw [Frame.read] at found
  split at found
  next => exact pop found
  next =>
    cases present : frame.localValue .read number with
    | ok other =>
      simp only [present, bind, Except.bind, pure, Except.pure] at found
      cases found
      exact refl frame
    | error error =>
      simp only [present, bind, Except.bind] at found
      cases found

theorem write {frame after : Frame} {number : Nat} {value : UInt16}
    (written : frame.write number value = .ok after) : SameActivation frame after := by
  rw [Frame.write] at written
  split at written
  next =>
    cases written
    exact push frame value
  next =>
    split at written
    next =>
      cases written
      exact ⟨rfl, rfl, rfl, List.length_set, rfl, rfl⟩
    next => cases written

theorem replace {frame after : Frame} {number : Nat} {value : UInt16}
    (written : frame.replace number value = .ok after) : SameActivation frame after := by
  rw [Frame.replace] at written
  split at written
  next =>
    cases popped : frame.pop with
    | ok result =>
      simp only [popped, bind, Except.bind, pure, Except.pure] at written
      cases written
      exact (pop popped).trans (push _ value)
    | error error =>
      simp only [popped, bind, Except.bind] at written
      cases written
  next => exact write written

end Frame.SameActivation

/-- The same activations on the stack, of which only the innermost may have changed its values. -/
inductive CallStack.TopChanged : CallStack → CallStack → Prop where
  | same (stack : CallStack) : TopChanged stack stack
  | changed {before after : Frame} (activation : before.SameActivation after)
      (outer : List Frame) : TopChanged ⟨before :: outer⟩ ⟨after :: outer⟩

theorem CallStack.TopChanged.trans {first second third : CallStack}
    (here : TopChanged first second) (there : TopChanged second third) :
    TopChanged first third := by
  cases here with
  | same => exact there
  | changed activation outer =>
    cases there with
    | same => exact .changed activation outer
    | changed later => exact .changed (activation.trans later) outer

structure Quiet [Host η] (before after : Machine η) : Prop where
  story : Story.SameStatic before.story after.story
  host : Relation.ReflTransGen Consulted before.host after.host
  stack : CallStack.TopChanged before.stack after.stack
  captures : after.captures.length ≤ max maxCaptures before.captures.length
  config : after.config = before.config
  status : after.status = before.status
  undo : after.undo = before.undo
  initial : after.initial = before.initial
  pending : after.pending = before.pending
  instructionCount : after.instructionCount = before.instructionCount

namespace Quiet

variable {η : Type} [Host η]

theorem refl (machine : Machine η) : Quiet machine machine :=
  ⟨refl_of Story.SameStatic machine.story, .refl, .same machine.stack, Nat.le_max_right _ _, rfl,
    rfl, rfl, rfl, rfl, rfl⟩

theorem trans {before middle after : Machine η} (first : Quiet before middle)
    (second : Quiet middle after) : Quiet before after where
  story := trans_of Story.SameStatic first.story second.story
  host := first.host.trans second.host
  stack := first.stack.trans second.stack
  captures := by
    have earlier := first.captures
    have later := second.captures
    omega
  config := second.config.trans first.config
  status := second.status.trans first.status
  undo := second.undo.trans first.undo
  initial := second.initial.trans first.initial
  pending := second.pending.trans first.pending
  instructionCount := second.instructionCount.trans first.instructionCount

instance : IsPreorder (Machine η) Quiet where
  refl := refl
  trans _ _ _ := trans

theorem setCaptures {machine : Machine η} {captures : List Capture}
    (few : captures.length ≤ max maxCaptures machine.captures.length) :
    Quiet machine { machine with captures } :=
  { refl machine with captures := few }

end Quiet

namespace Engine

section Reading

variable {η α : Type} {relation : Machine η → Machine η → Prop} [IsPreorder (Machine η) relation]

theorem keeps_query (read : Story → Except Error α) : Keeps relation (query read) := by
  apply keeps_of_eq
  intro before
  rw [query]
  split <;> rfl

theorem keeps_check (result : Except Error α) : Keeps relation (check result) :=
  keeps_query _

theorem keeps_queryStack (read : CallStack → Except Error α) :
    Keeps relation (queryStack read) := by
  apply keeps_of_eq
  intro before
  rw [queryStack]
  split <;> rfl

theorem keeps_version : Keeps relation (version : Engine η Version) :=
  keeps_get.bind fun _ => keeps_pure _

end Reading

variable {η α : Type} [Host η]

theorem quiet_update {change : Update α} (kept : Keeps Story.SameStatic change) :
    Keeps Quiet (update change : Engine η α) := by
  intro before
  have same := kept before.story
  cases ran : change before.story with
  | ok value story =>
    simp only [update, ran] at same ⊢
    exact { Quiet.refl before with story := same }
  | error error story =>
    simp only [update, ran] at same ⊢
    exact { Quiet.refl before with story := same }

theorem quiet_updateTop {change : Frame → Except Error (α × Frame)}
    (kept : ∀ frame value after, change frame = .ok (value, after) → frame.SameActivation after) :
    Keeps Quiet (updateTop change : Engine η α) := by
  intro before
  cases frames : before.stack.frames with
  | nil =>
    simp only [updateTop, updateStack, CallStack.modifyTop, frames]
    exact .refl before
  | cons frame outer =>
    have shape : before.stack = ⟨frame :: outer⟩ := by rw [← frames]
    cases ran : change frame with
    | ok result =>
      simp only [updateTop, updateStack, CallStack.modifyTop, frames, ran, bind, Except.bind, pure,
        Except.pure]
      have changed := CallStack.TopChanged.changed (kept frame result.1 result.2 ran) outer
      exact { Quiet.refl before with stack := shape ▸ changed }
    | error error =>
      simp only [updateTop, updateStack, CallStack.modifyTop, frames, ran, bind, Except.bind]
      exact .refl before

theorem quiet_ask {question : η → α × η} (consulted : ∀ host, Consulted host (question host).2) :
    Keeps Quiet (ask question) := by
  intro before
  exact { Quiet.refl before with host := .single (consulted before.host) }

theorem quiet_notify (notice : Notice) : Keeps Quiet (notify notice : Engine η Unit) := by
  intro before
  exact { Quiet.refl before with host := .single (.notified notice before.host) }

theorem quiet_report (error : Error) : Keeps Quiet (report error : Engine η Unit) := by
  apply keeps_get_bind
  intro before
  split
  next => exact keeps_throw error before
  next =>
    split
    next => exact keeps_throw error before
    next => exact keeps_pure () before
    next =>
      split
      next =>
        have noted : Quiet before { before with reported := error.code :: before.reported } :=
          { Quiet.refl before with }
        exact noted.trans (quiet_notify _ _)
      next => exact keeps_pure () before
    next => exact quiet_notify _ before

theorem quiet_reportAll (errors : List Error) : Keeps Quiet (reportAll errors : Engine η Unit) :=
  Keeps.forM quiet_report errors

theorem quiet_decodeWords (words : List UInt16) :
    Keeps Quiet (decodeWords words : Engine η (List Zscii)) := by
  refine (keeps_query _).bind fun decoded => ?_
  exact (quiet_reportAll decoded.warnings).bind fun _ => keeps_pure decoded.text

theorem quiet_decodeAt (address : Nat) :
    Keeps Quiet (decodeAt address : Engine η (List Zscii)) := by
  refine (keeps_query _).bind fun decoded => ?_
  exact (quiet_reportAll decoded.warnings).bind fun _ => keeps_pure decoded.text

section Variables

theorem quiet_readVariable (number : Nat) :
    Keeps Quiet (readVariable number : Engine η UInt16) := by
  refine Keeps.ite ?_ (keeps_query _)
  exact quiet_updateTop fun frame value after found => .read found

theorem quiet_peekVariable (number : Nat) :
    Keeps Quiet (peekVariable number : Engine η UInt16) :=
  (keeps_queryStack _).ite (keeps_query _)

private theorem quiet_setTop {change : Frame → Except Error Frame}
    (kept : ∀ frame after, change frame = .ok after → frame.SameActivation after) :
    Keeps Quiet (updateTop fun frame => return ((), ← change frame) : Engine η Unit) := by
  apply quiet_updateTop
  intro frame value after changed
  cases ran : change frame with
  | ok other =>
    simp only [ran, bind, Except.bind, pure, Except.pure] at changed
    cases changed
    exact kept frame after ran
  | error error =>
    simp only [ran, bind, Except.bind] at changed
    cases changed

theorem quiet_writeVariable (number : Nat) (value : UInt16) :
    Keeps Quiet (writeVariable number value : Engine η Unit) := by
  refine Keeps.ite ?_ (quiet_update (Update.keeps_setGlobal number value))
  exact quiet_setTop fun frame after written => .write written

theorem quiet_replaceVariable (number : Nat) (value : UInt16) :
    Keeps Quiet (replaceVariable number value : Engine η Unit) := by
  refine Keeps.ite ?_ (quiet_update (Update.keeps_setGlobal number value))
  exact quiet_setTop fun frame after written => .replace written

theorem quiet_push (value : UInt16) : Keeps Quiet (push value : Engine η Unit) := by
  apply quiet_updateTop
  intro frame _ after pushed
  cases pushed
  exact .push frame value

theorem quiet_popMany (count : Nat) : Keeps Quiet (popMany count : Engine η Unit) := by
  induction count with
  | zero => exact keeps_pure ()
  | succ count ih => exact (quiet_readVariable 0).bind fun _ => ih

theorem quiet_evaluate (instruction : Instruction) (required : Nat) :
    Keeps Quiet (evaluate instruction required : Engine η Operands) := by
  have values : Keeps Quiet (instruction.operands.mapM operandValue : Engine η (List UInt16)) := by
    apply Keeps.mapM
    intro operand
    unfold operandValue
    split
    · exact keeps_pure _
    · exact keeps_pure _
    · exact quiet_readVariable _
  unfold evaluate
  refine (keeps_throw _).ite_bind fun _ => ?_
  exact values.bind fun _ => keeps_pure _

theorem quiet_storeResult (instruction : Instruction) (value : UInt16) :
    Keeps Quiet (storeResult instruction value : Engine η Unit) := by
  unfold storeResult
  split
  · exact quiet_writeVariable _ value
  · exact keeps_pure ()

end Variables

section Output

/-- Text goes to the innermost table that keeps it, or else to the host. -/
theorem quiet_emit (shown : Notice) (text : List Zscii) :
    Keeps Quiet (emit shown text : Engine η Unit) := by
  have transcript (machine : Machine η) (_ : Unit) : Keeps Quiet
      (if machine.story.memory.hasFlag2 GameFlag.transcripting then notify (.transcript text)
        else pure () : Engine η Unit) :=
    (quiet_notify _).ite (keeps_pure ())
  apply keeps_get_bind
  intro before
  cases captures : before.captures with
  | nil => exact Keeps.ite_bind (quiet_notify shown) (transcript before) before
  | cons capture outer =>
    apply Quiet.setCaptures
    rw [captures]
    exact Nat.le_max_right _ _

theorem quiet_print (text : List Zscii) : Keeps Quiet (print text : Engine η Unit) :=
  quiet_emit _ text

theorem quiet_newLine : Keeps Quiet (newLine : Engine η Unit) :=
  quiet_emit _ _

private theorem quiet_openCapture (table : Option Nat) :
    Keeps Quiet (openCapture table : Engine η Unit) := by
  unfold openCapture
  split
  next => exact keeps_throw _
  next table =>
    apply keeps_get_bind
    intro before
    split
    next => exact keeps_throw _ before
    next room =>
      apply Quiet.setCaptures
      rw [List.length_cons]
      omega

private theorem quiet_closeCapture : Keeps Quiet (closeCapture : Engine η Unit) := by
  apply keeps_get_bind
  intro before
  cases captures : before.captures with
  | nil => exact keeps_pure () before
  | cons capture outer =>
    have fewer : outer.length ≤ max maxCaptures before.captures.length := by
      rw [captures, List.length_cons]
      omega
    exact (Quiet.setCaptures fewer).trans (quiet_update (Update.keeps_writeCapture capture) _)

theorem quiet_selectStream (stream : Int16) (table : Option Nat) :
    Keeps Quiet (selectStream stream table : Engine η Unit) := by
  have told (_ : Unit) : Keeps Quiet (notify (.outputStream stream) : Engine η Unit) :=
    quiet_notify _
  unfold selectStream
  split
  · exact (keeps_modify fun before => { Quiet.refl before with }).bind told
  · exact (keeps_modify fun before => { Quiet.refl before with }).bind told
  · exact (quiet_update (Update.keeps_setHeaderWord _ _)).bind told
  · exact (quiet_update (Update.keeps_setHeaderWord _ _)).bind told
  · exact (quiet_openCapture table).bind told
  · exact quiet_closeCapture.bind told
  · exact (keeps_modify fun before => { Quiet.refl before with }).bind told
  · exact (keeps_modify fun before => { Quiet.refl before with }).bind told
  · exact (keeps_throw _).bind told

theorem quiet_showStatus : Keeps Quiet (showStatus : Engine η Unit) := by
  refine (quiet_peekVariable _).bind fun object => ?_
  refine Keeps.ite ((keeps_pure []).bind fun left => ?_) ((keeps_query _).bind fun name =>
    (quiet_decodeWords name).bind fun left => ?_)
  all_goals
    refine (quiet_peekVariable _).bind fun first => ?_
    refine (quiet_peekVariable _).bind fun second => ?_
    exact keeps_get.bind fun machine => quiet_notify _

theorem quiet_printFollowing (instruction : Instruction) :
    Keeps Quiet (printFollowing instruction : Engine η Unit) := by
  refine (keeps_query _).bind fun words => ?_
  exact (quiet_decodeWords words).bind fun text => quiet_print text

theorem quiet_printRows (width skip : Nat) (cursor : UInt16 × UInt16) (address index count : Nat) :
    Keeps Quiet (printRows width skip cursor address index count : Engine η Unit) := by
  induction count generalizing address index with
  | zero => exact keeps_pure ()
  | succ count ih =>
    have row (_ : Unit) : Keeps Quiet (do
        let row ← query (·.memory.readBytes address width)
        print (row.map UInt8.toUInt16)
        printRows width skip cursor (address + width + skip) (index + 1) count : Engine η Unit) :=
      (keeps_query _).bind fun _ => (quiet_print _).bind fun _ => ih _ _
    unfold printRows
    refine Keeps.ite ?_ (row ())
    refine keeps_get.bind fun machine => ?_
    exact ((quiet_notify _).bind row).ite (quiet_newLine.bind row)

theorem quiet_tokenise (textBuffer parseBuffer dictionary : Nat) (skipUnknown : Bool) :
    Keeps Quiet (tokenise textBuffer parseBuffer dictionary skipUnknown : Engine η Unit) := by
  refine (keeps_query _).bind fun separators => ?_
  refine (keeps_query _).bind fun text => ?_
  refine (keeps_query _).bind fun capacity => ?_
  refine (quiet_update (Update.keeps_writeTokens _ _ _ _)).bind fun _ => ?_
  refine (quiet_report _).ite_bind fun _ => ?_
  exact quiet_update (Update.keeps_writeByte _ _)

end Output

section Random
open Relation (ReflTransGen)

private theorem consulted_below (generator : Generator η) (range : UInt16) :
    ReflTransGen Consulted generator.source (generator.below range).2.source := by
  unfold Generator.below Generator.generate
  cases generator.mode with
  | random => exact .single (.drawn generator.source)
  | counting range next => exact .refl

private theorem consulted_seed (generator : Generator η) (value : UInt16) (counting : Bool) :
    ReflTransGen Consulted generator.source (generator.seed value counting).source := by
  unfold Generator.seed
  split
  next => exact .refl
  next => exact .single (.seeded value.toUInt64 generator.source)

theorem quiet_random (range : Int16) : Keeps Quiet (random range : Engine η UInt16) := by
  intro before
  rw [random]
  split
  next =>
    have drawn := consulted_below ⟨before.randomMode, before.host⟩ range.toUInt16
    exact { Quiet.refl before with host := drawn }
  next =>
    have seeded := consulted_seed ⟨before.randomMode, before.host⟩
    exact { Quiet.refl before with host := seeded _ _ }

end Random

end Engine

end StoryMachine
