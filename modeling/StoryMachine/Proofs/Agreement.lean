import StoryMachine.Proofs.Stepping

/-! Machines that are alike inside, whatever is outside of them. A machine takes notice of its host
only through the answers it gets, and of its error policy only where an error is reported. Two
machines therefore stay alike while their outsides stay in a relation under which they get the same
answers, up to an error that one of them aborts on. -/

namespace StoryMachine

/-- What a machine tells its host or asks of it. -/
inductive HostCall where
  | notify (notice : Notice)
  | cursor
  | setFont (font : UInt16)
  | pictureData (picture : UInt16)
  | windowProperty (window : Int16) (property : UInt16)
  | readMouse
  | makeMenu (menu : UInt16) (items : List (List Zscii))
  | draw
  | seed (value : UInt64)
  | save (snapshot : Snapshot)
  | restore

inductive HostReply where
  | none
  | cursor (place : UInt16 × UInt16)
  | font (previous : UInt16)
  | picture (size : Option (UInt16 × UInt16))
  | property (value : UInt16)
  | mouse (state : MouseState)
  | menu (made : Bool)
  | number (value : UInt16)
  | saved (success : Bool)
  | snapshot (found : Option Snapshot)

def HostCall.error? : HostCall → Option (ErrorCode × String)
  | notify (.error code message) => some (code, message)
  | _ => none

def HostCall.run [Host η] (host : η) : HostCall → HostReply × η
  | notify notice => (.none, Presentation.notify notice host)
  | cursor => (Presentation.cursor host).map .cursor id
  | setFont font => (Presentation.setFont font host).map .font id
  | pictureData picture => (Presentation.pictureData picture host).map .picture id
  | windowProperty window property =>
    (Presentation.windowProperty window property host).map .property id
  | readMouse => (Presentation.readMouse host).map .mouse id
  | makeMenu menu items => (Presentation.makeMenu menu items host).map .menu id
  | draw => (RandomSource.draw host).map .number id
  | seed value => (.none, RandomSource.seed value host)
  | save snapshot => (SaveStore.save snapshot host).map .saved id
  | restore => (SaveStore.restore host).map .snapshot id

/-- What is outside of a machine: its host, and how errors are brought to it. -/
structure Outside (η : Type) where
  host : η
  policy : ErrorPolicy
  reported : List ErrorCode

namespace Outside

variable {η : Type} [Host η]

def call (outside : Outside η) (call : HostCall) : Outside η :=
  { outside with host := (call.run outside.host).2 }

def tell (outside : Outside η) (error : Error) : Outside η :=
  let told := outside.call (.notify (.error error.code error.message))
  match outside.policy with
  | .warnAlways => told
  | .warnOnce =>
    if error.code ∈ outside.reported then outside
    else { told with reported := error.code :: outside.reported }
  | .ignore | .abort => outside

end Outside

def Machine.outside (machine : Machine η) : Outside η :=
  ⟨machine.host, machine.config.errorPolicy, machine.reported⟩

def Machine.told [Host η] (machine : Machine η) (error : Error) : Machine η :=
  { machine with
    host := (machine.outside.tell error).host
    reported := (machine.outside.tell error).reported }

theorem Machine.outside_told [Host η] (machine : Machine η) (error : Error) :
    (machine.told error).outside = machine.outside.tell error := by
  have policy : (machine.outside.tell error).policy = machine.config.errorPolicy := by
    unfold Outside.tell
    split
    · rfl
    · split <;> rfl
    · rfl
    · rfl
  calc (machine.told error).outside
    _ = ⟨(machine.outside.tell error).host, machine.config.errorPolicy,
          (machine.outside.tell error).reported⟩ := rfl
    _ = machine.outside.tell error := by rw [← policy]

/-- A relation of outsides that lasts: the hosts give the same answers, and unless the first policy
is to abort, both machines go on after a reported error. -/
class Outside.Lasting {η₁ η₂ : Type} [Host η₁] [Host η₂]
    (relation : Outside η₁ → Outside η₂ → Prop) : Prop where
  call : ∀ {first second}, relation first second → ∀ call : HostCall, call.error? = none →
    (call.run first.host).1 = (call.run second.host).1 ∧
      relation (first.call call) (second.call call)
  tell : ∀ {first second}, relation first second → first.policy ≠ .abort →
    second.policy ≠ .abort ∧ ∀ error, relation (first.tell error) (second.tell error)

/-- Two machines are the same but for their hosts, error policies and reported errors. -/
structure Machine.SameInside {η₁ η₂ : Type} (first : Machine η₁) (second : Machine η₂) : Prop where
  story : first.story = second.story
  config : { first.config with errorPolicy := second.config.errorPolicy } = second.config
  stack : first.stack = second.stack
  status : first.status = second.status
  randomMode : first.randomMode = second.randomMode
  undo : first.undo = second.undo
  initial : first.initial = second.initial
  screen : first.screen = second.screen
  captures : first.captures = second.captures
  commandScript : first.commandScript = second.commandScript
  pending : first.pending = second.pending
  instructionCount : first.instructionCount = second.instructionCount

structure Machine.Agree {η₁ η₂ : Type} (relation : Outside η₁ → Outside η₂ → Prop)
    (first : Machine η₁) (second : Machine η₂) : Prop extends first.SameInside second where
  outside : relation first.outside second.outside

section Agreement

variable {η₁ η₂ α β : Type}

/-- Two results agree, or the first machine has aborted. -/
inductive Agreed (relation : Outside η₁ → Outside η₂ → Prop) :
    EStateM.Result Error (Machine η₁) α → EStateM.Result Error (Machine η₂) α → Prop where
  | ok (value : α) {first : Machine η₁} {second : Machine η₂}
      (agree : first.Agree relation second) :
      Agreed relation (.ok value first) (.ok value second)
  | error (error : Error) {first : Machine η₁} {second : Machine η₂}
      (agree : first.Agree relation second) :
      Agreed relation (.error error first) (.error error second)
  | aborted (error : Error) {first : Machine η₁}
      (aborts : first.config.errorPolicy = .abort)
      (result : EStateM.Result Error (Machine η₂) α) :
      Agreed relation (.error error first) result

def Agrees (relation : Outside η₁ → Outside η₂ → Prop) (first : Engine η₁ α)
    (second : Engine η₂ α) : Prop :=
  ∀ ⦃machine other⦄, machine.Agree relation other → Agreed relation (first machine) (second other)

variable {relation : Outside η₁ → Outside η₂ → Prop}

theorem agrees_pure (value : α) :
    Agrees relation (pure value : Engine η₁ α) (pure value : Engine η₂ α) :=
  fun _ _ agree => .ok value agree

theorem agrees_throw (error : Error) :
    Agrees relation (throw error : Engine η₁ α) (throw error : Engine η₂ α) :=
  fun _ _ agree => .error error agree

theorem Agrees.bind {first₁ : Engine η₁ α} {first₂ : Engine η₂ α} {next₁ : α → Engine η₁ β}
    {next₂ : α → Engine η₂ β} (here : Agrees relation first₁ first₂)
    (there : ∀ value, Agrees relation (next₁ value) (next₂ value)) :
    Agrees relation (first₁ >>= next₁) (first₂ >>= next₂) := by
  intro machine other agree
  have agreed := here agree
  cases ran : first₁ machine with
  | ok value middle =>
    rw [ran] at agreed
    rw [bind_of_ok ran]
    generalize same : first₂ other = result at agreed
    cases agreed with
    | ok value agree =>
      rw [bind_of_ok same]
      exact there value agree
  | error error middle =>
    rw [ran] at agreed
    rw [bind_of_error ran]
    generalize same : first₂ other = result at agreed
    cases agreed with
    | error error agree =>
      rw [bind_of_error same]
      exact .error error agree
    | aborted error aborts => exact .aborted error aborts _

theorem Agrees.ite {condition : Prop} [Decidable condition] {yes₁ no₁ : Engine η₁ α}
    {yes₂ no₂ : Engine η₂ α} (yes : Agrees relation yes₁ yes₂) (no : Agrees relation no₁ no₂) :
    Agrees relation (if condition then yes₁ else no₁) (if condition then yes₂ else no₂) := by
  by_cases holds : condition
  · rw [if_pos holds, if_pos holds]
    exact yes
  · rw [if_neg holds, if_neg holds]
    exact no

theorem Agrees.ite_bind {condition : Prop} [Decidable condition] {first₁ : Engine η₁ Unit}
    {first₂ : Engine η₂ Unit} {next₁ : Unit → Engine η₁ β} {next₂ : Unit → Engine η₂ β}
    (here : Agrees relation first₁ first₂)
    (there : ∀ value, Agrees relation (next₁ value) (next₂ value)) :
    Agrees relation (if condition then first₁ >>= next₁ else next₁ ())
      (if condition then first₂ >>= next₂ else next₂ ()) :=
  (here.bind there).ite (there ())

/-- What depends on a machine depends on what two machines have in common. -/
theorem agrees_get_bind {next₁ : Machine η₁ → Engine η₁ α} {next₂ : Machine η₂ → Engine η₂ α}
    (there : ∀ machine other, machine.Agree relation other →
      Agrees relation (next₁ machine) (next₂ other)) :
    Agrees relation (get >>= next₁) (get >>= next₂) :=
  fun machine other agree => there machine other agree agree

theorem agrees_modify {change₁ : Machine η₁ → Machine η₁} {change₂ : Machine η₂ → Machine η₂}
    (kept : ∀ machine other, machine.Agree relation other →
      (change₁ machine).Agree relation (change₂ other)) :
    Agrees relation (modify change₁ : Engine η₁ PUnit) (modify change₂ : Engine η₂ PUnit) :=
  fun machine other agree => .ok () (kept machine other agree)

theorem agrees_set {machine : Machine η₁} {other : Machine η₂}
    (agree : machine.Agree relation other) :
    Agrees relation (set machine : Engine η₁ PUnit) (set other : Engine η₂ PUnit) :=
  fun _ _ _ => .ok () agree

theorem Agrees.forM {body₁ : α → Engine η₁ PUnit} {body₂ : α → Engine η₂ PUnit}
    (each : ∀ item, Agrees relation (body₁ item) (body₂ item)) (items : List α) :
    Agrees relation (items.forM body₁) (items.forM body₂) := by
  induction items with
  | nil => exact agrees_pure _
  | cons item rest ih => exact (each item).bind fun _ => ih

theorem Agrees.mapM {body₁ : α → Engine η₁ β} {body₂ : α → Engine η₂ β}
    (each : ∀ item, Agrees relation (body₁ item) (body₂ item)) (items : List α) :
    Agrees relation (items.mapM body₁) (items.mapM body₂) := by
  induction items with
  | nil => exact agrees_pure _
  | cons item rest ih =>
    rw [List.mapM_cons, List.mapM_cons]
    exact (each item).bind fun _ => ih.bind fun _ => agrees_pure _

theorem Agrees.forIn {body₁ : α → β → Engine η₁ (ForInStep β)}
    {body₂ : α → β → Engine η₂ (ForInStep β)}
    (each : ∀ item state, Agrees relation (body₁ item state) (body₂ item state)) (items : List α)
    (init : β) : Agrees relation (forIn items init body₁) (forIn items init body₂) := by
  induction items generalizing init with
  | nil => exact agrees_pure init
  | cons item rest ih =>
    rw [List.forIn_cons, List.forIn_cons]
    refine (each item init).bind fun step => ?_
    cases step with
    | done state => exact agrees_pure state
    | yield state => exact ih state

namespace Engine

section Inside

theorem agrees_query (read : Story → Except Error α) :
    Agrees relation (query read : Engine η₁ α) (query read : Engine η₂ α) := by
  intro machine other agree
  unfold query
  rw [agree.story]
  cases read other.story with
  | ok value => exact .ok value agree
  | error error => exact .error error agree

theorem agrees_update (change : Update α) :
    Agrees relation (update change : Engine η₁ α) (update change : Engine η₂ α) := by
  intro machine other agree
  unfold update
  rw [agree.story]
  cases change other.story with
  | ok value story => exact .ok value { agree with story := rfl }
  | error error story => exact .error error { agree with story := rfl }

theorem agrees_queryStack (read : CallStack → Except Error α) :
    Agrees relation (queryStack read : Engine η₁ α) (queryStack read : Engine η₂ α) := by
  intro machine other agree
  unfold queryStack
  rw [agree.stack]
  cases read other.stack with
  | ok value => exact .ok value agree
  | error error => exact .error error agree

theorem agrees_updateStack (change : CallStack → Except Error (α × CallStack)) :
    Agrees relation (updateStack change : Engine η₁ α) (updateStack change : Engine η₂ α) := by
  intro machine other agree
  unfold updateStack
  rw [agree.stack]
  cases change other.stack with
  | ok result => exact .ok result.1 { agree with stack := rfl }
  | error error => exact .error error agree

theorem agrees_updateTop (change : Frame → Except Error (α × Frame)) :
    Agrees relation (updateTop change : Engine η₁ α) (updateTop change : Engine η₂ α) :=
  agrees_updateStack _

theorem agrees_push (value : UInt16) :
    Agrees relation (push value : Engine η₁ Unit) (push value : Engine η₂ Unit) :=
  agrees_updateTop _

theorem agrees_setPc (address : Nat) :
    Agrees relation (setPc address : Engine η₁ Unit) (setPc address : Engine η₂ Unit) :=
  agrees_updateTop _

theorem agrees_version :
    Agrees relation (version : Engine η₁ Version) (version : Engine η₂ Version) := by
  refine agrees_get_bind fun machine other agree => ?_
  rw [Machine.version, agree.story]
  exact agrees_pure _

theorem agrees_readVariable (number : Nat) :
    Agrees relation (readVariable number : Engine η₁ UInt16) (readVariable number) :=
  (agrees_updateTop _).ite (agrees_query _)

theorem agrees_peekVariable (number : Nat) :
    Agrees relation (peekVariable number : Engine η₁ UInt16) (peekVariable number) :=
  (agrees_queryStack _).ite (agrees_query _)

theorem agrees_writeVariable (number : Nat) (value : UInt16) :
    Agrees relation (writeVariable number value : Engine η₁ Unit) (writeVariable number value) :=
  (agrees_updateTop _).ite (agrees_update _)

theorem agrees_replaceVariable (number : Nat) (value : UInt16) :
    Agrees relation (replaceVariable number value : Engine η₁ Unit)
      (replaceVariable number value) :=
  (agrees_updateTop _).ite (agrees_update _)

theorem agrees_evaluate (instruction : Instruction) (required : Nat) :
    Agrees relation (evaluate instruction required : Engine η₁ Operands)
      (evaluate instruction required) := by
  have value (operand : Operand) :
      Agrees relation (operandValue operand : Engine η₁ UInt16) (operandValue operand) := by
    unfold operandValue
    cases operand.kind with
    | largeConstant | smallConstant => exact agrees_pure _
    | var => exact agrees_readVariable _
  unfold evaluate
  refine (agrees_throw _).ite_bind fun _ => ?_
  exact (Agrees.mapM value _).bind fun _ => agrees_pure _

theorem agrees_storeResult (instruction : Instruction) (value : UInt16) :
    Agrees relation (storeResult instruction value : Engine η₁ Unit)
      (storeResult instruction value) := by
  unfold storeResult
  cases instruction.store with
  | some store => exact agrees_writeVariable _ value
  | none => exact agrees_pure ()

theorem agrees_proceed (instruction : Instruction) :
    Agrees relation (proceed instruction : Engine η₁ Continuation) (proceed instruction) :=
  agrees_pure _

theorem agrees_finishWith (instruction : Instruction) (value : UInt16) :
    Agrees relation (finishWith instruction value : Engine η₁ Continuation)
      (finishWith instruction value) :=
  (agrees_storeResult instruction value).bind fun _ => agrees_proceed instruction

theorem agrees_call (address : Nat) (arguments : List UInt16) (kind : RoutineKind)
    (returnAddress : Nat) :
    Agrees relation (call address arguments kind returnAddress : Engine η₁ Continuation)
      (call address arguments kind returnAddress) := by
  unfold call
  refine Agrees.ite ?_ ?_
  · cases kind with
    | function store => exact (agrees_writeVariable _ 0).bind fun _ => agrees_pure _
    | procedure | interrupt => exact agrees_pure _
  · refine (agrees_query _).bind fun routine => ?_
    refine Agrees.bind (agrees_modify fun machine other agree => ?_) fun _ => agrees_pure _
    exact { agree with stack := by rw [agree.stack] }

theorem agrees_returnValue (value : UInt16) :
    Agrees relation (returnValue value : Engine η₁ Continuation) (returnValue value) := by
  refine agrees_get_bind fun machine other agree => ?_
  rw [agree.stack]
  refine (agrees_throw _).ite_bind fun _ => ?_
  refine (agrees_updateStack _).bind fun frame => ?_
  refine agrees_get_bind fun machine other agree => ?_
  rw [agree.stack]
  refine Agrees.ite (agrees_pure _) ?_
  cases frame.kind with
  | function store => exact (agrees_writeVariable _ value).bind fun _ => agrees_pure _
  | procedure | interrupt => exact agrees_pure _

theorem agrees_throwTo (depth : Nat) (value : UInt16) :
    Agrees relation (throwTo depth value : Engine η₁ Continuation) (throwTo depth value) := by
  refine agrees_get_bind fun machine other agree => ?_
  rw [agree.stack]
  refine (agrees_throw _).ite_bind fun _ => ?_
  refine Agrees.bind (agrees_modify fun machine other agree => ?_) fun _ =>
    agrees_returnValue value
  exact { agree with stack := by rw [agree.stack] }

theorem agrees_branchOn (instruction : Instruction) (condition : Bool) :
    Agrees relation (branchOn instruction condition : Engine η₁ Continuation)
      (branchOn instruction condition) := by
  unfold branchOn
  cases instruction.branch with
  | none => exact agrees_proceed instruction
  | some branch =>
    refine Agrees.ite ?_ (agrees_proceed instruction)
    split
    · exact agrees_returnValue 0
    · exact agrees_returnValue 1
    · exact agrees_pure _

theorem agrees_callPacked (instruction : Instruction) (packed : UInt16)
    (arguments : List UInt16) :
    Agrees relation (callPacked instruction packed arguments : Engine η₁ Continuation)
      (callPacked instruction packed arguments) := by
  refine agrees_get_bind fun machine other agree => ?_
  rw [agree.story]
  exact agrees_call _ arguments _ instruction.next

theorem agrees_await (instruction : Instruction) (operands : Operands) (request : InputRequest) :
    Agrees relation (await instruction operands request : Engine η₁ Continuation)
      (await instruction operands request) :=
  Agrees.bind (agrees_modify fun _ _ agree => { agree with pending := rfl }) fun _ =>
    agrees_pure _

end Inside

section Reports

variable [Host η₁]

theorem report_of_fatal {error : Error} (fatal : ¬ error.isRecoverable = true)
    (machine : Machine η₁) : report error machine = .error error machine := by
  rw [report, get_bind, if_pos fatal]
  rfl

theorem report_of_abort {machine : Machine η₁} (aborts : machine.config.errorPolicy = .abort)
    (error : Error) : report error machine = .error error machine := by
  rw [report, get_bind]
  simp only [aborts]
  split <;> rfl

theorem report_of_going {machine : Machine η₁} (going : machine.config.errorPolicy ≠ .abort)
    {error : Error} (recoverable : error.isRecoverable = true) :
    report error machine = .ok () (machine.told error) := by
  rw [report, get_bind]
  simp only [recoverable, not_true_eq_false, if_false, Machine.told, Outside.tell, Machine.outside]
  cases policy : machine.config.errorPolicy with
  | abort => exact absurd policy going
  | ignore | warnAlways => rfl
  | warnOnce =>
    by_cases known : error.code ∈ machine.reported
    · simp only [known, not_true_eq_false, if_false, if_true]
      rfl
    · simp only [known, not_false_eq_true, if_true, if_false]
      rfl

end Reports

section Hosts

variable [Host η₁] [Host η₂] [lasting : Outside.Lasting relation]

theorem agrees_ask {question₁ : η₁ → α × η₁} {question₂ : η₂ → α × η₂} (call : HostCall)
    (plain : call.error? = none) {reply : α → HostReply} (injective : Function.Injective reply)
    (asks₁ : ∀ host, call.run host = (question₁ host).map reply id)
    (asks₂ : ∀ host, call.run host = (question₂ host).map reply id) :
    Agrees relation (ask question₁) (ask question₂) := by
  intro machine other agree
  obtain ⟨same, kept⟩ := lasting.call agree.outside call plain
  have answers : (question₁ machine.host).1 = (question₂ other.host).1 := by
    apply injective
    simpa only [Machine.outside, asks₁, asks₂, Prod.map_fst] using same
  simp only [Outside.call, Machine.outside, asks₁, asks₂] at kept
  unfold ask
  dsimp only
  rw [answers]
  exact .ok _ { agree with outside := kept }

theorem agrees_notify {notice : Notice} (plain : (HostCall.notify notice).error? = none) :
    Agrees relation (notify notice : Engine η₁ Unit) (notify notice) := by
  intro machine other agree
  exact .ok () { agree with outside := (lasting.call agree.outside _ plain).2 }

/-- Unless the first machine aborts, an error is survived by both, or by neither. -/
theorem agrees_report (error : Error) :
    Agrees relation (report error : Engine η₁ Unit) (report error) := by
  intro machine other agree
  by_cases aborts : machine.config.errorPolicy = .abort
  · rw [report_of_abort aborts]
    exact .aborted error aborts _
  · obtain ⟨going, told⟩ := lasting.tell agree.outside aborts
    by_cases recoverable : error.isRecoverable = true
    · rw [report_of_going aborts recoverable, report_of_going going recoverable]
      refine .ok () { agree with outside := ?_ }
      rw [machine.outside_told, other.outside_told]
      exact told error
    · rw [report_of_fatal recoverable, report_of_fatal recoverable]
      exact .error error agree

end Hosts

end Engine

end Agreement

end StoryMachine
