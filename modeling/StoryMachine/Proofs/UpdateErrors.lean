import StoryMachine.Proofs.StoryErrors

/-! Whatever fails in changing a story, execution can carry on after it: an update reads, writes,
and refuses what the story's data does not allow. -/

namespace StoryMachine

variable {ε σ α β : Type}

def FailsOnly (allowed : σ → ε → Prop) (action : EStateM ε σ α) : Prop :=
  ∀ ⦃before error after⦄, action before = .error error after → allowed after error

section FailsOnly

variable {allowed : σ → ε → Prop}

theorem failsOnly_of_ok {action : EStateM ε σ α}
    (runs : ∀ before, ∃ value after, action before = .ok value after) :
    FailsOnly allowed action := by
  intro before error after failed
  obtain ⟨value, other, ran⟩ := runs before
  rw [ran] at failed
  cases failed

theorem failsOnly_pure (value : α) : FailsOnly allowed (pure value : EStateM ε σ α) :=
  failsOnly_of_ok fun before => ⟨value, before, rfl⟩

theorem failsOnly_get : FailsOnly allowed (get : EStateM ε σ σ) :=
  failsOnly_of_ok fun before => ⟨before, before, rfl⟩

theorem failsOnly_modify (change : σ → σ) :
    FailsOnly allowed (modify change : EStateM ε σ PUnit) :=
  failsOnly_of_ok fun before => ⟨⟨⟩, change before, rfl⟩

theorem failsOnly_set (state : σ) : FailsOnly allowed (set state : EStateM ε σ PUnit) :=
  failsOnly_of_ok fun _ => ⟨⟨⟩, state, rfl⟩

theorem failsOnly_throw {error : ε} (always : ∀ state, allowed state error) :
    FailsOnly allowed (throw error : EStateM ε σ α) := by
  intro before other after failed
  cases failed
  exact always before

theorem FailsOnly.bind {first : EStateM ε σ α} {next : α → EStateM ε σ β}
    (here : FailsOnly allowed first) (there : ∀ value, FailsOnly allowed (next value)) :
    FailsOnly allowed (first >>= next) := by
  intro before error after failed
  cases ran : first before with
  | ok value middle =>
    rw [bind_of_ok ran] at failed
    exact there value failed
  | error other middle =>
    rw [bind_of_error ran] at failed
    cases failed
    exact here ran

theorem failsOnly_get_bind {next : σ → EStateM ε σ α}
    (there : ∀ ⦃before error after⦄, next before before = .error error after →
      allowed after error) : FailsOnly allowed (get >>= next) :=
  there

theorem FailsOnly.ite {condition : Prop} [Decidable condition] {first second : EStateM ε σ α}
    (yes : FailsOnly allowed first) (no : FailsOnly allowed second) :
    FailsOnly allowed (if condition then first else second) := by
  split
  · exact yes
  · exact no

/-- What follows a conditional step follows either way. -/
theorem FailsOnly.ite_bind {condition : Prop} [Decidable condition] {first : EStateM ε σ Unit}
    {next : Unit → EStateM ε σ β} (here : FailsOnly allowed first)
    (there : ∀ value, FailsOnly allowed (next value)) :
    FailsOnly allowed (if condition then first >>= next else next ()) :=
  (here.bind there).ite (there ())

theorem FailsOnly.forM {body : α → EStateM ε σ PUnit} {items : List α}
    (here : ∀ item ∈ items, FailsOnly allowed (body item)) :
    FailsOnly allowed (items.forM body) := by
  induction items with
  | nil => exact failsOnly_pure _
  | cons item rest ih =>
    obtain ⟨first, others⟩ := List.forall_mem_cons.mp here
    exact first.bind fun _ => ih others

theorem FailsOnly.mapM {body : α → EStateM ε σ β} (here : ∀ item, FailsOnly allowed (body item))
    (items : List α) : FailsOnly allowed (items.mapM body) := by
  induction items with
  | nil => exact failsOnly_pure _
  | cons item rest ih =>
    rw [List.mapM_cons]
    exact (here item).bind fun _ => ih.bind fun _ => failsOnly_pure _

theorem FailsOnly.forIn {body : α → β → EStateM ε σ (ForInStep β)}
    (here : ∀ item state, FailsOnly allowed (body item state)) (items : List α) (init : β) :
    FailsOnly allowed (forIn items init body) := by
  induction items generalizing init with
  | nil => exact failsOnly_pure init
  | cons item rest ih =>
    rw [List.forIn_cons]
    refine (here item init).bind fun step => ?_
    cases step with
    | done state => exact failsOnly_pure state
    | yield state => exact ih state

end FailsOnly

def Recoverable (_ : σ) (error : Error) : Prop :=
  error.isMild = true

namespace Update

theorem failsOnly_query {allowed : Story → Error → Prop} {read : Story → Except Error α}
    (only : ∀ story, RaisesOnly (allowed story) (read story)) : FailsOnly allowed (query read) := by
  intro before error after failed
  cases found : read before with
  | ok value =>
    rw [query_of_ok found] at failed
    cases failed
  | error other =>
    rw [query_of_error found] at failed
    cases failed
    exact only before error found

theorem failsOnly_modifyMemory {allowed : Story → Error → Prop}
    {write : Memory → Except Error Memory}
    (only : ∀ story, RaisesOnly (allowed story) (write story.memory)) :
    FailsOnly allowed (modifyMemory write) := by
  intro before error after failed
  cases written : write before.memory with
  | ok memory =>
    simp only [modifyMemory, written] at failed
    cases failed
  | error other =>
    simp only [modifyMemory, written] at failed
    cases failed
    exact only before error written

theorem mild_query {read : Story → Except Error α} (mild : ∀ story, Mild (read story)) :
    FailsOnly Recoverable (query read) :=
  failsOnly_query mild

theorem mild_modifyMemory {write : Memory → Except Error Memory}
    (mild : ∀ memory, Mild (write memory)) : FailsOnly Recoverable (modifyMemory write) :=
  failsOnly_modifyMemory fun story => mild story.memory

theorem mild_throw {error : Error} (recoverable : error.isMild = true) :
    FailsOnly Recoverable (throw error : Update α) :=
  failsOnly_throw fun _ => recoverable

theorem mild_writeByte (address : Nat) (value : UInt8) :
    FailsOnly Recoverable (writeByte address value) :=
  mild_modifyMemory fun memory => memory.mild_writeByte address value

theorem mild_writeWord (address : Nat) (value : UInt16) :
    FailsOnly Recoverable (writeWord address value) :=
  mild_modifyMemory fun memory => memory.mild_writeWord address value

theorem mild_writeBytes (address : Nat) (values : List UInt8) :
    FailsOnly Recoverable (writeBytes address values) := by
  induction values generalizing address with
  | nil => exact failsOnly_pure ()
  | cons value rest ih => exact (mild_writeByte address value).bind fun _ => ih _

theorem mild_writeWords (address : Nat) (values : List UInt16) :
    FailsOnly Recoverable (writeWords address values) := by
  induction values generalizing address with
  | nil => exact failsOnly_pure ()
  | cons value rest ih => exact (mild_writeWord address value).bind fun _ => ih _

theorem mild_setHeaderWord (field : HeaderField) (value : Memory → UInt16) :
    FailsOnly Recoverable
      (modifyMemory fun memory => .ok (memory.setHeaderWord field (value memory))) :=
  mild_modifyMemory fun _ => mild_ok _

theorem mild_setGlobal (number : Nat) (value : UInt16) :
    FailsOnly Recoverable (setGlobal number value) :=
  failsOnly_get.bind fun _ => mild_writeWord _ _

section Objects

theorem mild_setLink (link : Link) (object value : Nat) :
    FailsOnly Recoverable (setLink link object value) := by
  refine (mild_query fun story => story.mild_objectAddress object).bind fun address => ?_
  refine failsOnly_get.bind fun story => ?_
  exact (mild_writeByte _ _).ite (mild_writeWord _ _)

theorem mild_removeObject (object : Nat) : FailsOnly Recoverable (removeObject object) := by
  have orphaned (_ : Unit) :
      FailsOnly Recoverable (setParent object 0 >>= fun _ => setSibling object 0) :=
    (mild_setLink .parent object 0).bind fun _ => mild_setLink .sibling object 0
  refine (mild_query fun story => story.mild_link .parent object).bind fun parent => ?_
  refine FailsOnly.ite ?_ (failsOnly_pure ())
  refine (mild_query fun story => story.mild_link .sibling object).bind fun next => ?_
  refine (mild_query fun story => story.mild_link .child parent).bind fun first => ?_
  refine FailsOnly.ite ((mild_setLink .child parent next).bind orphaned) ?_
  refine failsOnly_get.bind fun story => ?_
  refine (mild_query fun story => story.mild_previousSibling _ _ _ _).bind fun previous => ?_
  exact (mild_setLink .sibling previous next).bind orphaned

theorem mild_insertObject (object destination : Nat) :
    FailsOnly Recoverable (insertObject object destination) := by
  refine (mild_query fun story => story.mild_objectAddress object).bind fun _ => ?_
  refine (mild_query fun story => story.mild_objectAddress destination).bind fun _ => ?_
  refine failsOnly_get.bind fun story => ?_
  refine (mild_query fun story => story.mild_isAncestor object _ _).bind fun cyclic => ?_
  refine FailsOnly.ite_bind (mild_throw rfl) fun _ => ?_
  refine (mild_removeObject object).bind fun _ => ?_
  refine (mild_query fun story => story.mild_link .child destination).bind fun first => ?_
  refine (mild_setLink .sibling object first).bind fun _ => ?_
  refine (mild_setLink .child destination object).bind fun _ => ?_
  exact mild_setLink .parent object destination

theorem mild_setAttribute (object number : Nat) :
    FailsOnly Recoverable (setAttribute object number) := by
  refine (mild_query fun story => story.mild_attributeAddress _ _ _).bind fun address => ?_
  refine (mild_query fun story => story.memory.mild_readByte address).bind fun byte => ?_
  exact mild_writeByte _ _

theorem mild_clearAttribute (object number : Nat) :
    FailsOnly Recoverable (clearAttribute object number) := by
  refine (mild_query fun story => story.mild_attributeAddress _ _ _).bind fun address => ?_
  refine (mild_query fun story => story.memory.mild_readByte address).bind fun byte => ?_
  exact mild_writeByte _ _

theorem mild_setProperty (object number : Nat) (value : UInt16) :
    FailsOnly Recoverable (setProperty object number value) := by
  refine (mild_query fun story => story.mild_checkProperty object number).bind fun _ => ?_
  refine (mild_query fun story => story.mild_property? object number).bind fun property => ?_
  split
  · exact mild_throw rfl
  · exact mild_writeByte _ _
  · exact mild_writeWord _ _
  · exact mild_throw rfl

end Objects

section Text

theorem mild_encodeText (address length offset coded : Nat) :
    FailsOnly Recoverable (encodeText address length offset coded) := by
  refine (mild_query fun story => story.memory.mild_readBytes _ _).bind fun characters => ?_
  refine (mild_query fun story => story.mild_encodeDictionaryWord _).bind fun encoded => ?_
  exact mild_writeWords coded encoded

theorem mild_writeCapture (capture : Capture) : FailsOnly Recoverable (writeCapture capture) :=
  (mild_writeWord _ _).bind fun _ => mild_writeBytes _ _

theorem mild_writeToken (dictionary : Nat) (skipUnknown : Bool) (place : Nat) (word : Word) :
    FailsOnly Recoverable (writeToken dictionary skipUnknown place word) := by
  refine (mild_query fun story => story.mild_lookup? dictionary _).bind fun entry => ?_
  refine failsOnly_get.bind fun story => ?_
  refine FailsOnly.ite ?_ (failsOnly_pure ())
  refine (mild_writeWord _ _).bind fun _ => ?_
  exact (mild_writeByte _ _).bind fun _ => mild_writeByte _ _

theorem mild_writeTokens (dictionary : Nat) (skipUnknown : Bool) (place : Nat)
    (words : List Word) :
    FailsOnly Recoverable (writeTokens dictionary skipUnknown place words) := by
  induction words generalizing place with
  | nil => exact failsOnly_pure ()
  | cons word rest ih =>
    exact (mild_writeToken dictionary skipUnknown place word).bind fun _ => ih (place + 4)

theorem mild_writeLine (buffer : Nat) (line : List Zscii) :
    FailsOnly Recoverable (writeLine buffer line) := by
  refine (mild_query fun story => story.mild_bufferCapacity buffer).bind fun capacity => ?_
  refine failsOnly_get.bind fun story => ?_
  exact (mild_writeBytes _ _).ite (mild_writeBytes _ _)

end Text

section Tables

theorem mild_copyUp (source target count : Nat) :
    FailsOnly Recoverable (copyUp source target count) := by
  induction count generalizing source target with
  | zero => exact failsOnly_pure ()
  | succ count ih =>
    refine (mild_query fun story => story.memory.mild_readByte source).bind fun byte => ?_
    exact (mild_writeByte target byte).bind fun _ => ih (source + 1) (target + 1)

theorem mild_copyDown (source target count : Nat) :
    FailsOnly Recoverable (copyDown source target count) := by
  induction count with
  | zero => exact failsOnly_pure ()
  | succ count ih =>
    refine (mild_query fun story => story.memory.mild_readByte _).bind fun byte => ?_
    exact (mild_writeByte (target + count) byte).bind fun _ => ih

theorem mild_copyTable (source target : Nat) (size : Int) :
    FailsOnly Recoverable (copyTable source target size) := by
  refine FailsOnly.ite (mild_writeBytes _ _) ?_
  exact (mild_copyUp _ _ _).ite (mild_copyDown _ _ _)

theorem mild_popUserStack (table : Nat) : FailsOnly Recoverable (popUserStack table) := by
  refine (mild_query fun story => story.memory.mild_readWord table).bind fun slots => ?_
  refine (mild_query fun story => story.memory.mild_readWord _).bind fun value => ?_
  exact (mild_writeWord _ _).bind fun _ => failsOnly_pure value

theorem mild_dropUserStack (table : Nat) (count : UInt16) :
    FailsOnly Recoverable (dropUserStack table count) := by
  refine (mild_query fun story => story.memory.mild_readWord table).bind fun slots => ?_
  exact mild_writeWord _ _

theorem mild_pushUserStack (table : Nat) (value : UInt16) :
    FailsOnly Recoverable (pushUserStack table value) := by
  refine (mild_query fun story => story.memory.mild_readWord table).bind fun slots => ?_
  refine FailsOnly.ite (failsOnly_pure false) ?_
  refine (mild_writeWord _ _).bind fun _ => ?_
  exact (mild_writeWord _ _).bind fun _ => failsOnly_pure true

end Tables

end Update

end StoryMachine
