import StoryMachine.Proofs.FailedReturns
import StoryMachine.Proofs.Operands

/-! The numbers of attributes and properties. An operation on one of them takes the low byte of its
second operand for the number and checks that against the range of the version. So a number that
does not fit a byte is refused exactly if its low byte is out of range, and otherwise it counts as
its low byte. -/

namespace StoryMachine

/-- What an object has under numbers, of which a version allows some. -/
inductive Numbering where
  | attributes
  | properties
  deriving DecidableEq, Repr

namespace Numbering

def code : Numbering → ErrorCode
  | attributes => .invalidAttribute
  | properties => .invalidProperty

def Excludes (numbering : Numbering) (version : Version) (number : Nat) : Prop :=
  match numbering with
  | attributes => version.attributeCount ≤ number
  | properties => number = 0 ∨ version.maxProperty < number

instance (numbering : Numbering) (version : Version) (number : Nat) :
    Decidable (numbering.Excludes version number) :=
  match numbering with
  | attributes => inferInstanceAs (Decidable (_ ≤ _))
  | properties => inferInstanceAs (Decidable (_ ∨ _))

end Numbering

namespace Operation

def numbering? : Operation → Option Numbering
  | testAttr | setAttr | clearAttr => some .attributes
  | getProp | getPropAddr | putProp => some .properties
  | _ => none

def operandsOnNumber : Operation → Nat
  | putProp => 3
  | _ => 2

end Operation

namespace Error

def SparesNumber (error : Error) : Prop :=
  match error.code with
  | .invalidAttribute | .invalidProperty => False
  | _ => True

theorem SparesNumber.code_ne {error : Error} (spares : error.SparesNumber) (numbering : Numbering) :
    error.code ≠ numbering.code := by
  intro same
  rw [SparesNumber, same] at spares
  cases numbering <;> exact spares

theorem OfResult.sparesNumber {error : Error} (kind : error.OfResult) : error.SparesNumber := by
  rw [OfResult] at kind
  rw [SparesNumber]
  generalize error.code = code at kind ⊢
  simp only [List.mem_cons, List.not_mem_nil, or_false] at kind
  rcases kind with rfl | rfl | rfl | rfl <;> trivial

end Error

namespace Story

variable (story : Story)

theorem spares_readByte (address : Nat) :
    RaisesOnly Error.SparesNumber (story.memory.readByte address) :=
  (raisesOnly_ok _).ite (raisesOnly_error trivial)

theorem spares_readWord (address : Nat) :
    RaisesOnly Error.SparesNumber (story.memory.readWord address) :=
  (raisesOnly_ok _).ite (raisesOnly_error trivial)

theorem spares_objectAddress (object : Nat) :
    RaisesOnly Error.SparesNumber (story.objectAddress object) :=
  (raisesOnly_error trivial).ite ((raisesOnly_error trivial).ite (raisesOnly_ok _))

theorem spares_propertyAt (address : Nat) :
    RaisesOnly Error.SparesNumber (story.propertyAt address) := by
  refine (story.spares_readByte address).bind fun size => ?_
  refine (raisesOnly_ok _).ite (RaisesOnly.ite ?_ ((raisesOnly_ok _).ite (raisesOnly_ok _)))
  exact (story.spares_readByte _).bind fun _ => raisesOnly_ok _

theorem spares_findProperty (number address : Nat) :
    RaisesOnly Error.SparesNumber (story.findProperty number address) := by
  fun_induction Story.findProperty story number address with
  | case1 | case3 | case4 => exact raisesOnly_ok _
  | case2 address _ error failed =>
    exact raisesOnly_error (story.spares_propertyAt address error failed)
  | case5 _ _ _ _ _ _ ih => exact ih

theorem spares_property? (object number : Nat) :
    RaisesOnly Error.SparesNumber (story.property? object number) := by
  have table : RaisesOnly Error.SparesNumber (story.propertyTable object) :=
    (story.spares_objectAddress object).bind fun _ =>
      (story.spares_readWord _).bind fun _ => raisesOnly_ok _
  have first : RaisesOnly Error.SparesNumber (story.firstProperty object) :=
    table.bind fun _ => (story.spares_readByte _).bind fun _ => raisesOnly_ok _
  exact first.bind fun address => story.spares_findProperty number address

variable {story} {object number address : Nat}

section Excluded

theorem attributeAddress_of_excluded (access : AttributeAccess)
    (valid : story.objectAddress object = .ok address)
    (excluded : Numbering.attributes.Excludes story.version number) :
    story.attributeAddress access object number =
      .error (.invalidAttribute access number object) := by
  have outside : story.version.attributeCount ≤ number := excluded
  rw [attributeAddress, valid]
  exact if_pos outside

theorem checkProperty_of_excluded (object : Nat)
    (excluded : Numbering.properties.Excludes story.version number) :
    story.checkProperty object number = .error (.invalidProperty number object) :=
  if_pos excluded

end Excluded

section Included

theorem spares_attributeAddress (access : AttributeAccess) (object : Nat)
    (included : ¬ Numbering.attributes.Excludes story.version number) :
    RaisesOnly Error.SparesNumber (story.attributeAddress access object number) := by
  have inside : ¬ story.version.attributeCount ≤ number := included
  refine (story.spares_objectAddress object).bind fun address => ?_
  rw [if_neg inside]
  exact raisesOnly_ok _

theorem spares_hasAttribute (object : Nat)
    (included : ¬ Numbering.attributes.Excludes story.version number) :
    RaisesOnly Error.SparesNumber (story.hasAttribute object number) :=
  (spares_attributeAddress .test object included).bind fun _ =>
    (story.spares_readByte _).bind fun _ => raisesOnly_ok _

theorem spares_checkProperty (object : Nat)
    (included : ¬ Numbering.properties.Excludes story.version number) :
    RaisesOnly Error.SparesNumber (story.checkProperty object number) := by
  have passed : story.checkProperty object number = .ok () := if_neg included
  rw [passed]
  exact raisesOnly_ok ()

theorem spares_propertyDataAddress (object : Nat)
    (included : ¬ Numbering.properties.Excludes story.version number) :
    RaisesOnly Error.SparesNumber (story.propertyDataAddress object number) := by
  refine (spares_checkProperty object included).bind fun _ => ?_
  refine (story.spares_property? object number).bind fun property => ?_
  split
  · exact raisesOnly_ok _
  · exact raisesOnly_ok _

theorem spares_propertyValue (object : Nat)
    (included : ¬ Numbering.properties.Excludes story.version number) :
    RaisesOnly Error.SparesNumber (story.propertyValue object number) := by
  refine (spares_checkProperty object included).bind fun _ => ?_
  refine (story.spares_property? object number).bind fun property => ?_
  split
  · exact (raisesOnly_error trivial).ite_bind fun _ => story.spares_readWord _
  · exact (story.spares_readByte _).bind fun _ => raisesOnly_ok _
  · exact story.spares_readWord _
  · exact raisesOnly_error trivial

end Included

end Story

def Spares {σ α : Type} (result : EStateM.Result Error σ α) : Prop :=
  ∀ error after, result = .error error after → error.SparesNumber

theorem spares_bind {σ α β : Type} {first : EStateM Error σ α} {next : α → EStateM Error σ β}
    {before : σ} (here : Spares (first before))
    (there : ∀ value, FailsOnly (fun _ error => error.SparesNumber) (next value)) :
    Spares ((first >>= next) before) := by
  intro error after failed
  cases ran : first before with
  | ok value middle =>
    rw [bind_of_ok ran] at failed
    exact there value failed
  | error other middle =>
    rw [bind_of_error ran] at failed
    cases failed
    exact here error after ran

namespace Update

variable {story : Story} {number : Nat}

theorem spares_query {α : Type} {read : Story → Except Error α}
    (spares : RaisesOnly Error.SparesNumber (read story)) : Spares (query read story) := by
  intro error after failed
  cases found : read story with
  | ok value =>
    rw [query_of_ok found] at failed
    cases failed
  | error other =>
    rw [query_of_error found] at failed
    cases failed
    exact spares error found

theorem failsOnly_writeByte (address : Nat) (value : UInt8) :
    FailsOnly (fun _ error => error.SparesNumber) (writeByte address value) :=
  failsOnly_modifyMemory fun _ => (raisesOnly_ok _).ite (raisesOnly_error trivial)

theorem failsOnly_writeWord (address : Nat) (value : UInt16) :
    FailsOnly (fun _ error => error.SparesNumber) (writeWord address value) :=
  failsOnly_modifyMemory fun _ => (raisesOnly_ok _).ite (raisesOnly_error trivial)

/-- Setting and clearing an attribute find its byte and write that. -/
theorem spares_attributeByte (access : AttributeAccess) (object : Nat)
    (included : ¬ Numbering.attributes.Excludes story.version number) (change : UInt8 → UInt8) :
    Spares ((do
      let address ← query (·.attributeAddress access object number)
      let byte ← query (·.memory.readByte address)
      writeByte address (change byte)) story) := by
  refine spares_bind (spares_query (story.spares_attributeAddress access object included)) ?_
  intro address
  refine (failsOnly_query fun story => story.spares_readByte address).bind fun byte => ?_
  exact failsOnly_writeByte address _

theorem spares_setProperty (object : Nat)
    (included : ¬ Numbering.properties.Excludes story.version number) (value : UInt16) :
    Spares (setProperty object number value story) := by
  refine spares_bind (spares_query (story.spares_checkProperty object included)) fun _ => ?_
  refine (failsOnly_query fun story => story.spares_property? object number).bind fun found => ?_
  split
  · exact failsOnly_throw fun _ => trivial
  · exact failsOnly_writeByte _ _
  · exact failsOnly_writeWord _ _
  · exact failsOnly_throw fun _ => trivial

end Update

namespace Engine

variable {η : Type} {machine ready : Machine η} {instruction : Instruction}
  {operation : Operation} {numbering : Numbering} {object number : Nat}

theorem spares_query {α : Type} {read : Story → Except Error α}
    (spares : RaisesOnly Error.SparesNumber (read machine.story)) :
    Spares (query read machine) := by
  intro error after failed
  cases found : read machine.story with
  | ok value =>
    rw [query_of_ok found] at failed
    cases failed
  | error other =>
    rw [query_of_error found] at failed
    cases failed
    exact spares error found

theorem spares_update {α : Type} {change : Update α} (spares : Spares (change machine.story)) :
    Spares (update change machine) := by
  intro error after failed
  cases made : change machine.story with
  | ok value story =>
    rw [update_of_ok made] at failed
    cases failed
  | error other story =>
    rw [update_of_error made] at failed
    cases failed
    exact spares error story made

theorem spares_finishWith (instruction : Instruction) (value : UInt16) :
    FailsOnly (fun _ error => error.SparesNumber)
      (finishWith instruction value : Engine η Continuation) := by
  have stored : FailsOnly (fun _ error => error.SparesNumber)
      (storeResult instruction value : Engine η Unit) := by
    unfold storeResult
    split
    · intro before error after failed
      exact (ofResult_writeVariable _ value failed).sparesNumber
    · exact failsOnly_pure ()
  exact stored.bind fun _ => failsOnly_pure _

theorem spares_branchOn (instruction : Instruction) (condition : Bool) :
    FailsOnly (fun _ error => error.SparesNumber)
      (branchOn instruction condition : Engine η Continuation) := by
  have returned (value : UInt16) : FailsOnly (fun _ error => error.SparesNumber)
      (returnValue value : Engine η Continuation) := by
    intro before error after failed
    exact (ofResult_returnValue value failed).sparesNumber
  unfold branchOn
  split
  next => exact failsOnly_pure _
  next =>
    refine FailsOnly.ite ?_ (failsOnly_pure _)
    split
    · exact returned 0
    · exact returned 1
    · exact failsOnly_pure _

def onNumber (operation : Operation) (instruction : Instruction) (object number : Nat)
    (value : UInt16) : Engine η Continuation :=
  match operation with
  | .testAttr => query (·.hasAttribute object number) >>= branchOn instruction
  | .setAttr => update (Update.setAttribute object number) >>= fun _ => proceed instruction
  | .clearAttr => update (Update.clearAttribute object number) >>= fun _ => proceed instruction
  | .getProp => query (·.propertyValue object number) >>= finishWith instruction
  | .getPropAddr =>
    query (fun story => UInt16.ofNat <$> story.propertyDataAddress object number) >>=
      finishWith instruction
  | .putProp => update (Update.setProperty object number value) >>= fun _ => proceed instruction
  | _ => proceed instruction

/-- A number in range is not refused. -/
theorem spares_onNumber (on : operation.numbering? = some numbering)
    (included : ¬ numbering.Excludes machine.version number) (value : UInt16) :
    Spares (onNumber operation instruction object number value machine) := by
  unfold Operation.numbering? at on
  split at on
  all_goals cases on
  · exact spares_bind (spares_query (Story.spares_hasAttribute object included))
      (spares_branchOn instruction)
  · exact spares_bind (spares_update (Update.spares_attributeByte .set object included _))
      fun _ => failsOnly_pure _
  · exact spares_bind (spares_update (Update.spares_attributeByte .clear object included _))
      fun _ => failsOnly_pure _
  · exact spares_bind (spares_query (Story.spares_propertyValue object included))
      (spares_finishWith instruction)
  · exact spares_bind (spares_query ((Story.spares_propertyDataAddress object included).map _))
      (spares_finishWith instruction)
  · exact spares_bind (spares_update (Update.spares_setProperty object included value))
      fun _ => failsOnly_pure _

/-- A number out of range is refused, and nothing changes. -/
theorem onNumber_of_excluded (on : operation.numbering? = some numbering)
    (valid : ∃ address, machine.story.objectAddress object = .ok address)
    (excluded : numbering.Excludes machine.version number) (value : UInt16) :
    ∃ error, onNumber operation instruction object number value machine = .error error machine ∧
      error.code = numbering.code := by
  obtain ⟨address, valid⟩ := valid
  unfold Operation.numbering? at on
  split at on
  all_goals cases on
  · have failed := Story.attributeAddress_of_excluded .test valid excluded
    have refused : machine.story.hasAttribute object number =
        .error (.invalidAttribute .test number object) := by
      rw [Story.hasAttribute, failed]
      rfl
    exact ⟨_, bind_of_error (query_of_error refused), rfl⟩
  · have failed := Story.attributeAddress_of_excluded .set valid excluded
    have refused : Update.setAttribute object number machine.story =
        .error (.invalidAttribute .set number object) machine.story :=
      bind_of_error (Update.query_of_error failed)
    exact ⟨_, bind_of_error (update_of_error refused), rfl⟩
  · have failed := Story.attributeAddress_of_excluded .clear valid excluded
    have refused : Update.clearAttribute object number machine.story =
        .error (.invalidAttribute .clear number object) machine.story :=
      bind_of_error (Update.query_of_error failed)
    exact ⟨_, bind_of_error (update_of_error refused), rfl⟩
  · have failed := Story.checkProperty_of_excluded object excluded
    have refused : machine.story.propertyValue object number =
        .error (.invalidProperty number object) := by
      rw [Story.propertyValue, failed]
      rfl
    exact ⟨_, bind_of_error (query_of_error refused), rfl⟩
  · have failed := Story.checkProperty_of_excluded object excluded
    have refused : UInt16.ofNat <$> machine.story.propertyDataAddress object number =
        .error (.invalidProperty number object) := by
      rw [Story.propertyDataAddress, failed]
      rfl
    exact ⟨_, bind_of_error (query_of_error refused), rfl⟩
  · have failed := Story.checkProperty_of_excluded object excluded
    have refused : Update.setProperty object number value machine.story =
        .error (.invalidProperty number object) machine.story :=
      bind_of_error (Update.query_of_error failed)
    exact ⟨_, bind_of_error (update_of_error refused), rfl⟩

variable [Host η] {operands : Operands}

/-- An instruction on an attribute or a property uses the low byte of its second operand. -/
theorem dispatch_onNumber (means : instruction.opcode.operation? = some operation)
    (on : operation.numbering? = some numbering)
    (evaluated : evaluate instruction operation.operandsOnNumber machine = .ok operands ready) :
    dispatch instruction machine = onNumber operation instruction operands.first.toNat
      (operands.second.toNat % 256) operands.third ready := by
  unfold Operation.numbering? at on
  split at on
  all_goals cases on
  all_goals rw [dispatch_of_available _ means rfl]
  all_goals exact bind_of_ok evaluated

/-- The operations on attributes and properties check the low byte of a number. Of a valid object,
they refuse every number whose low byte is out of range, with nothing changed but that the operands
are taken, and no other number. With any other number they do what they do with its low byte. -/
theorem numbers_refused_by_low_byte (means : instruction.opcode.operation? = some operation)
    (on : operation.numbering? = some numbering)
    (evaluated : evaluate instruction operation.operandsOnNumber machine = .ok operands ready)
    (valid : ∃ address, machine.story.objectAddress operands.first.toNat = .ok address) :
    let low := operands.second.toNat % 256
    (numbering.Excludes machine.version low → ready.story = machine.story ∧
      ∃ error, dispatch instruction machine = .error error ready ∧ error.code = numbering.code) ∧
    (¬ numbering.Excludes machine.version low → ∀ error failed,
      dispatch instruction machine = .error error failed → error.code ≠ numbering.code) ∧
    ∀ others before narrowed,
      evaluate { instruction with operands := others } operation.operandsOnNumber before =
        .ok narrowed ready →
      narrowed.first = operands.first → narrowed.second.toNat = low →
      narrowed.third = operands.third →
      dispatch { instruction with operands := others } before = dispatch instruction machine := by
  intro low
  have story : ready.story = machine.story := by
    obtain ⟨-, rfl, -⟩ := evaluate_eq_ok evaluated
    rfl
  have version : ready.version = machine.version := congrArg Story.version story
  have acts := dispatch_onNumber means on evaluated
  rw [← story] at valid
  refine ⟨?_, ?_, ?_⟩
  · intro excluded
    rw [← version] at excluded
    rw [acts]
    exact ⟨story, onNumber_of_excluded on valid excluded operands.third⟩
  · intro included error failed raised
    rw [← version] at included
    rw [acts] at raised
    exact (spares_onNumber on included operands.third error failed raised).code_ne numbering
  · intro others before narrowed evaluated' first second third
    have small : narrowed.second.toNat % 256 = low := by
      rw [second]
      exact Nat.mod_mod _ _
    have acts' : dispatch { instruction with operands := others } before = _ :=
      dispatch_onNumber means on evaluated'
    rw [acts, acts', first, small, third]
    rfl

def setting (number : UInt16) : Instruction where
  address := 0x40
  opcode := .ofByte .v3 0xcb
  operands := [⟨.smallConstant, 1⟩, ⟨.largeConstant, number⟩]
  store := none
  branch := none
  next := 0x45

def furnishing : Machine MemoryStore :=
  .ofBytes .v3 [(0x0b, 0x10)]

theorem numbers_refused_by_low_byte_furnishing :
    (∃ error, dispatch (setting 0x120) furnishing = .error error furnishing ∧
      error.code = .invalidAttribute) ∧
    (∀ error failed, dispatch (setting 0x11f) furnishing = .error error failed →
      error.code ≠ .invalidAttribute) ∧
    dispatch (setting 0x1f) furnishing = dispatch (setting 0x11f) furnishing := by
  have means (number : UInt16) : (setting number).opcode.operation? = some .setAttr := rfl
  have evaluated (number : UInt16) :
      evaluate (setting number) 2 furnishing = .ok ⟨[1, number]⟩ furnishing := rfl
  have valid : ∃ address, furnishing.story.objectAddress 1 = .ok address :=
    ⟨0x4e, by decide +kernel⟩
  obtain ⟨refused, -, -⟩ := numbers_refused_by_low_byte (means 0x120) rfl (evaluated 0x120) valid
  obtain ⟨-, spared, same⟩ := numbers_refused_by_low_byte (means 0x11f) rfl (evaluated 0x11f) valid
  exact ⟨(refused (by decide)).2, spared (by decide),
    same (setting 0x1f).operands _ _ (evaluated 0x1f) rfl rfl rfl⟩

/-- There are 32 attributes, but setting attribute 256 sets attribute 0. -/
theorem attribute_256_is_set :
    Numbering.attributes.Excludes furnishing.version 256 ∧
    furnishing.story.objectAddress 1 = .ok 0x4e ∧ furnishing.story.memory.byteAt 0x4e = 0 ∧
    ∃ after, dispatch (setting 256) furnishing = .ok (.goto 0x45) after ∧
      after.story.memory.byteAt 0x4e = 0x80 := by
  have means : (setting 256).opcode.operation? = some .setAttr := rfl
  have evaluated : evaluate (setting 256) 2 furnishing = .ok ⟨[1, 256]⟩ furnishing := rfl
  have found : Update.query (·.attributeAddress .set 1 0) furnishing.story =
      .ok 0x4e furnishing.story := Update.query_of_ok (by decide +kernel)
  have read : Update.query (·.memory.readByte 0x4e) furnishing.story = .ok 0 furnishing.story :=
    Update.query_of_ok (by decide +kernel)
  have inside : 0x4e < furnishing.story.memory.staticMark := by decide +kernel
  let changed : Story :=
    { furnishing.story with memory := furnishing.story.memory.put 0x4e 0x80 }
  have mask : 0 ||| attributeMask 0 = 0x80 := by decide
  have written : Update.setAttribute 1 0 furnishing.story = .ok () changed := by
    rw [Update.setAttribute, bind_of_ok found, bind_of_ok read, mask, Update.writeByte_eq,
      if_pos inside]
  have stored : changed.memory.byteAt 0x4e = 0x80 := by decide +kernel
  refine ⟨by decide, by decide +kernel, by decide +kernel, { furnishing with story := changed },
    ?_, stored⟩
  rw [dispatch_onNumber means rfl evaluated]
  exact bind_of_ok (update_of_ok written)

end Engine

end StoryMachine
