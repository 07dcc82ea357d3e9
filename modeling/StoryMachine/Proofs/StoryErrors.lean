import StoryMachine.Proofs.DecodedInstructions
import StoryMachine.Proofs.Running
import StoryMachine.Semantics.Dispatch

/-! Whatever fails in reading a story, execution can carry on after it: the errors are those of the
story's data. -/

namespace StoryMachine

variable {α β : Type}

def RaisesOnly (allowed : Error → Prop) (result : Except Error α) : Prop :=
  ∀ error, result = .error error → allowed error

section RaisesOnly

variable {allowed : Error → Prop}

theorem raisesOnly_ok (value : α) : RaisesOnly allowed (.ok value) := by
  intro error failed
  cases failed

theorem raisesOnly_error {error : Error} (fits : allowed error) :
    RaisesOnly allowed (.error error : Except Error α) := by
  intro other same
  cases same
  exact fits

theorem RaisesOnly.bind {first : Except Error α} {next : α → Except Error β}
    (here : RaisesOnly allowed first) (there : ∀ value, RaisesOnly allowed (next value)) :
    RaisesOnly allowed (first >>= next) := by
  cases first with
  | ok value => exact there value
  | error error => exact raisesOnly_error (here error rfl)

theorem RaisesOnly.map {result : Except Error α} (here : RaisesOnly allowed result)
    (change : α → β) : RaisesOnly allowed (change <$> result) := by
  cases result with
  | ok value => exact raisesOnly_ok (change value)
  | error error => exact raisesOnly_error (here error rfl)

theorem RaisesOnly.ite {condition : Prop} [Decidable condition] {first second : Except Error α}
    (yes : RaisesOnly allowed first) (no : RaisesOnly allowed second) :
    RaisesOnly allowed (if condition then first else second) := by
  split
  · exact yes
  · exact no

/-- What follows a conditional reading follows either way. -/
theorem RaisesOnly.ite_bind {condition : Prop} [Decidable condition] {first : Except Error Unit}
    {next : Unit → Except Error β} (here : RaisesOnly allowed first)
    (there : ∀ value, RaisesOnly allowed (next value)) :
    RaisesOnly allowed (if condition then first >>= next else next ()) :=
  (here.bind there).ite (there ())

end RaisesOnly

theorem exists_of_bind_eq_ok {first : Except Error α} {next : α → Except Error β} {result : β}
    (found : (first >>= next) = .ok result) :
    ∃ value, first = .ok value ∧ next value = .ok result := by
  cases first with
  | ok value => exact ⟨value, rfl, found⟩
  | error error => cases found

/-- Is this a recoverable error that the machine raises itself? -/
def Error.isMild : Error → Bool
  | external _ _ _ => false
  | error => error.isRecoverable

def Mild (result : Except Error α) : Prop :=
  ∀ error, result = .error error → error.isMild = true

theorem mild_ok (value : α) : Mild (.ok value) :=
  raisesOnly_ok value

theorem mild_error {error : Error} (recoverable : error.isMild = true) :
    Mild (.error error : Except Error α) :=
  raisesOnly_error recoverable

theorem Mild.bind {first : Except Error α} {next : α → Except Error β} (here : Mild first)
    (there : ∀ value, Mild (next value)) : Mild (first >>= next) :=
  RaisesOnly.bind here there

theorem Mild.map {result : Except Error α} (here : Mild result) (change : α → β) :
    Mild (change <$> result) :=
  RaisesOnly.map here change

theorem Mild.ite {condition : Prop} [Decidable condition] {first second : Except Error α}
    (yes : Mild first) (no : Mild second) : Mild (if condition then first else second) :=
  RaisesOnly.ite yes no

theorem Mild.ite_bind {condition : Prop} [Decidable condition] {first : Except Error Unit}
    {next : Unit → Except Error β} (here : Mild first) (there : ∀ value, Mild (next value)) :
    Mild (if condition then first >>= next else next ()) :=
  RaisesOnly.ite_bind here there

theorem Mild.mapM {read : α → Except Error β} (here : ∀ item, Mild (read item)) (items : List α) :
    Mild (items.mapM read) := by
  induction items with
  | nil => exact mild_ok []
  | cons item rest ih =>
    rw [List.mapM_cons]
    exact (here item).bind fun value => ih.bind fun values => mild_ok (value :: values)

theorem Mild.foldlM {step : β → α → Except Error β} (here : ∀ state item, Mild (step state item))
    (items : List α) (init : β) : Mild (items.foldlM step init) := by
  induction items generalizing init with
  | nil => exact mild_ok init
  | cons item rest ih =>
    rw [List.foldlM_cons]
    exact (here init item).bind fun state => ih state

namespace Memory

variable (memory : Memory)

theorem mild_readByte (address : Nat) : Mild (memory.readByte address) :=
  (mild_ok _).ite (mild_error rfl)

theorem mild_readWord (address : Nat) : Mild (memory.readWord address) :=
  (mild_ok _).ite (mild_error rfl)

theorem mild_readBytes (address count : Nat) : Mild (memory.readBytes address count) :=
  Mild.mapM memory.mild_readByte _

theorem mild_readWords (address count : Nat) : Mild (memory.readWords address count) :=
  Mild.mapM memory.mild_readWord _

theorem mild_writeByte (address : Nat) (value : UInt8) : Mild (memory.writeByte address value) :=
  (mild_ok _).ite (mild_error rfl)

theorem mild_writeWord (address : Nat) (value : UInt16) : Mild (memory.writeWord address value) :=
  (mild_ok _).ite (mild_error rfl)

theorem mild_replace (image : Array UInt8) : Mild (memory.replace image) := by
  unfold replace
  split
  · exact mild_ok _
  · exact mild_error rfl

theorem mild_textEnd (address : Nat) : Mild (memory.textEnd address) := by
  fun_induction Memory.textEnd memory address with
  | case1 => exact mild_ok _
  | case2 _ _ _ ih => exact ih
  | case3 => exact mild_error rfl

theorem mild_textWords (address : Nat) : Mild (memory.textWords address) :=
  (memory.mild_textEnd address).bind fun _ => mild_ok _

theorem mild_zeroByteFrom (address : Nat) : Mild (memory.zeroByteFrom address) := by
  fun_induction Memory.zeroByteFrom memory address with
  | case1 => exact mild_ok _
  | case2 _ _ _ ih => exact ih
  | case3 => exact mild_error rfl

theorem mild_zeroWordFrom (address : Nat) : Mild (memory.zeroWordFrom address) := by
  fun_induction Memory.zeroWordFrom memory address with
  | case1 => exact mild_ok _
  | case2 _ _ _ ih => exact ih
  | case3 => exact mild_error rfl

theorem mild_wordsUntilZero (address : Nat) : Mild (memory.wordsUntilZero address) :=
  (memory.mild_zeroWordFrom address).bind fun _ => mild_ok _

theorem mild_countedText (address : Nat) : Mild (memory.countedText address) :=
  (memory.mild_readByte address).bind fun _ =>
    (memory.mild_readBytes _ _).bind fun _ => mild_ok _

theorem mild_menuItems (table : Nat) : Mild (memory.menuItems table) := by
  refine (memory.mild_readWord table).bind fun count => ?_
  exact Mild.mapM (fun place =>
    (memory.mild_readWord place).bind fun _ => memory.mild_countedText _) _

theorem mild_scanTable (value : UInt16) (form address count : Nat) :
    Mild (memory.scanTable value form address count) := by
  induction count generalizing address with
  | zero => exact mild_ok none
  | succ count ih =>
    have compared (entry : UInt16) : Mild (do
        if entry = value then
          return some address
        memory.scanTable value form (address + form % 128) count : Except Error (Option Nat)) :=
      (mild_ok _).ite (ih _)
    unfold scanTable
    refine Mild.ite ((memory.mild_readWord address).bind compared) ?_
    exact ((memory.mild_readByte address).map _).bind compared

theorem mild_formLines (address : Nat) :
    ∀ error ∈ (memory.formLines address).2, error.isMild = true := by
  fun_induction Memory.formLines memory address with
  | case1 => nofun
  | case2 _ _ _ _ error failed =>
    rintro other ⟨⟩
    exact memory.mild_readBytes _ _ error failed
  | case3 _ _ _ _ _ _ _ error same ih =>
    rw [same] at ih
    exact ih
  | case4 =>
    rintro other ⟨⟩
    rfl

theorem mild_extensionAddress? (entry : ExtensionWord) :
    Mild (memory.extensionAddress? entry) :=
  (mild_ok none).ite ((memory.mild_readWord _).bind fun _ => mild_ok _)

theorem mild_setExtension (entry : ExtensionWord) (value : UInt16) :
    Mild (memory.setExtension entry value) := by
  refine (memory.mild_extensionAddress? entry).bind fun address => ?_
  split
  · exact memory.mild_writeWord _ value
  · exact mild_ok memory

end Memory

def Decoded.Benign (decoded : Decoded) : Prop :=
  ∀ warning ∈ decoded.warnings, warning.isMild = true

namespace Decoding

variable {alphabet : Alphabet} {scheme : ShiftScheme}
  {expand : ZChar → ZChar → Except Error Decoded}

theorem warnings_takeCharacter (state : State) (zchar : ZChar) :
    (takeCharacter alphabet scheme state zchar).warnings = state.warnings := by
  unfold takeCharacter State.emit
  dsimp only
  split
  all_goals first | rfl | (split <;> rfl)

theorem mild_take (expands : ∀ bank index, Mild (expand bank index)) (state : State)
    (zchar : ZChar) : Mild (take alphabet scheme expand state zchar) := by
  unfold take
  split
  · exact mild_ok _
  · exact (expands _ _).bind fun _ => mild_ok _
  · exact mild_ok _
  · exact mild_ok _

theorem mild_decode (expands : ∀ bank index, Mild (expand bank index)) (words : List UInt16) :
    Mild (decode alphabet scheme expand words) :=
  (Mild.foldlM (mild_take expands) _ _).bind fun _ => mild_ok _

/-- Taking a character warns of nothing but what an abbreviation warns of. -/
theorem benign_take (expands : ∀ bank index text, expand bank index = .ok text → text.Benign)
    {state after : State} {zchar : ZChar}
    (benign : ∀ warning ∈ state.warnings, warning.isMild = true)
    (took : take alphabet scheme expand state zchar = .ok after) :
    ∀ warning ∈ after.warnings, warning.isMild = true := by
  unfold take at took
  split at took
  next =>
    cases took
    rw [warnings_takeCharacter]
    exact benign
  next bank _ =>
    obtain ⟨text, found, took⟩ := exists_of_bind_eq_ok took
    cases took
    exact List.forall_mem_append.mpr ⟨benign, expands bank zchar text found⟩
  next =>
    cases took
    exact benign
  next =>
    cases took
    exact benign

theorem benign_finish {state : State}
    (benign : ∀ warning ∈ state.warnings, warning.isMild = true) :
    state.finish.Benign := by
  refine List.forall_mem_append.mpr ⟨benign, ?_⟩
  split <;> simp [Error.isMild, Error.isRecoverable]

theorem benign_decode (expands : ∀ bank index text, expand bank index = .ok text → text.Benign)
    {words : List UInt16} {decoded : Decoded}
    (done : decode alphabet scheme expand words = .ok decoded) : decoded.Benign := by
  -- Along the z-characters, the warnings collected so far are recoverable.
  have taken (zchars : List ZChar) : ∀ state after : State,
      (∀ warning ∈ state.warnings, warning.isMild = true) →
      zchars.foldlM (take alphabet scheme expand) state = .ok after →
      ∀ warning ∈ after.warnings, warning.isMild = true := by
    induction zchars with
    | nil =>
      rintro state after benign ⟨⟩
      exact benign
    | cons zchar rest ih =>
      intro state after benign ran
      rw [List.foldlM_cons] at ran
      obtain ⟨middle, took, ran⟩ := exists_of_bind_eq_ok ran
      exact ih middle after (benign_take expands benign took) ran
  obtain ⟨state, ran, done⟩ := exists_of_bind_eq_ok done
  cases done
  exact benign_finish (taken _ {} state nofun ran)

end Decoding

inductive Error.BeyondMemory : Error → Prop where
  | byte (address last : Nat) : BeyondMemory (.byteBeyondMemory address last)
  | word (address last : Nat) : BeyondMemory (.wordBeyondMemory address last)

theorem Error.BeyondMemory.code_eq {error : Error} (beyond : error.BeyondMemory) :
    error.code = .invalidAddress := by
  cases beyond <;> rfl

theorem Error.BeyondMemory.isMild_eq {error : Error} (beyond : error.BeyondMemory) :
    error.isMild = true := by
  cases beyond <;> rfl

theorem Error.BeyondMemory.isRecoverable_eq {error : Error} (beyond : error.BeyondMemory) :
    error.isRecoverable = true := by
  cases beyond <;> rfl

theorem Memory.raises_textEnd (memory : Memory) (address : Nat) :
    RaisesOnly Error.BeyondMemory (memory.textEnd address) := by
  fun_induction Memory.textEnd memory address with
  | case1 => exact raisesOnly_ok _
  | case2 _ _ _ ih => exact ih
  | case3 => exact raisesOnly_error (.word ..)

/-- Scanning fails only where memory ends. -/
theorem Scan.Sequential.raises {scan : Memory → Scan α} (sequential : Sequential scan)
    (memory : Memory) (address : Nat) : RaisesOnly Error.BeyondMemory (scan memory address) := by
  induction sequential generalizing address with
  | pure | get => exact raisesOnly_ok _
  | nextByte =>
    exact ((raisesOnly_ok _).ite (raisesOnly_error (.byte ..))).bind fun _ => raisesOnly_ok _
  | nextWord =>
    exact ((raisesOnly_ok _).ite (raisesOnly_error (.word ..))).bind fun _ => raisesOnly_ok _
  | skipLiteral => exact (memory.raises_textEnd address).bind fun _ => raisesOnly_ok _
  | bind here there first later =>
    exact (first address).bind fun found => later found.1 found.2

def Scan.Mild (scan : Scan α) : Prop :=
  ∀ address, StoryMachine.Mild (scan address)

theorem Instruction.mild_scan (memory : Memory) (version : Version) :
    Scan.Mild (scan memory version) := by
  intro address error failed
  exact ((sequential_scan version).raises memory address error failed).isMild_eq

namespace Story
open Decoding

variable (story : Story)

section Text

theorem mild_alphabet : Mild (Alphabet.ofStory story) := by
  refine (mild_ok _).ite (Mild.ite ?_ (mild_ok _))
  exact (story.memory.mild_readBytes _ 78).bind fun _ => mild_ok _

theorem mild_decodeAbbreviation (words : List UInt16) : Mild (story.decodeAbbreviation words) :=
  story.mild_alphabet.bind fun _ => mild_decode (fun _ _ => mild_ok _) words

theorem mild_abbreviation (bank index : ZChar) : Mild (story.abbreviation bank index) :=
  (story.memory.mild_readWord _).bind fun _ =>
    (story.memory.mild_textWords _).bind fun words => story.mild_decodeAbbreviation words

theorem mild_decodeWords (words : List UInt16) : Mild (story.decodeWords words) :=
  story.mild_alphabet.bind fun _ => mild_decode story.mild_abbreviation words

theorem mild_decodeAt (address : Nat) : Mild (story.decodeAt address) :=
  (story.memory.mild_textWords address).bind fun words => story.mild_decodeWords words

theorem benign_decodeWords {words : List UInt16} {decoded : Decoded}
    (done : story.decodeWords words = .ok decoded) : decoded.Benign := by
  obtain ⟨alphabet, -, done⟩ := exists_of_bind_eq_ok done
  refine benign_decode (fun bank index text found => ?_) done
  obtain ⟨address, -, found⟩ := exists_of_bind_eq_ok found
  obtain ⟨words, -, found⟩ := exists_of_bind_eq_ok found
  obtain ⟨alphabet, -, found⟩ := exists_of_bind_eq_ok found
  refine benign_decode (fun bank index text nested => ?_) found
  cases nested
  simp [Decoded.Benign, Error.isMild, Error.isRecoverable]

theorem benign_decodeAt {address : Nat} {decoded : Decoded}
    (done : story.decodeAt address = .ok decoded) : decoded.Benign := by
  obtain ⟨words, -, done⟩ := exists_of_bind_eq_ok done
  exact story.benign_decodeWords done

theorem mild_encodeDictionaryWord (text : List Zscii) : Mild (story.encodeDictionaryWord text) :=
  story.mild_alphabet.bind fun _ => mild_ok _

end Text

section Dictionary

variable (dictionary : Dictionary) (memory : Memory)

theorem mild_compareEntry (address : Nat) (encoded : List UInt16) :
    Mild (Dictionary.compareEntry memory address encoded) := by
  induction encoded generalizing address with
  | nil => exact mild_ok _
  | cons expected rest ih =>
    refine (memory.mild_readWord address).bind fun found => ?_
    split
    · exact ih _
    · exact mild_ok _

theorem mild_search (encoded : List UInt16) (low high : Nat) :
    Mild (dictionary.search memory encoded low high) := by
  fun_induction Dictionary.search dictionary memory encoded low high with
  | case1 low high _ pivot less greater =>
    refine (mild_compareEntry memory _ encoded).bind fun order => ?_
    cases order with
    | eq => exact mild_ok _
    | lt => exact less
    | gt => exact greater
  | case2 => exact mild_ok none

theorem mild_scan (encoded : List UInt16) (index remaining : Nat) :
    Mild (dictionary.scan memory encoded index remaining) := by
  induction remaining generalizing index with
  | zero => exact mild_ok none
  | succ remaining ih =>
    refine (mild_compareEntry memory _ encoded).bind fun order => ?_
    split
    · exact mild_ok _
    · exact ih _

theorem mild_separators (address : Nat) : Mild (story.separators address) :=
  (story.memory.mild_readByte address).bind fun _ =>
    (story.memory.mild_readBytes _ _).bind fun _ => mild_ok _

theorem mild_dictionary (address : Nat) : Mild (story.dictionary address) := by
  refine (story.memory.mild_readByte address).bind fun _ => ?_
  refine (story.memory.mild_readByte _).bind fun _ => ?_
  refine (story.memory.mild_readWord _).bind fun _ => ?_
  exact (mild_error rfl).ite_bind fun _ => mild_ok _

theorem mild_lookup? (address : Nat) (text : List Zscii) : Mild (story.lookup? address text) := by
  refine (story.mild_dictionary address).bind fun dictionary => ?_
  refine (story.mild_encodeDictionaryWord text).bind fun encoded => ?_
  exact (mild_search dictionary story.memory encoded _ _).ite
    (mild_scan dictionary story.memory encoded _ _)

theorem mild_bytesUntilZero (address count : Nat) : Mild (story.bytesUntilZero address count) := by
  induction count generalizing address with
  | zero => exact mild_ok []
  | succ count ih =>
    refine (story.memory.mild_readByte address).bind fun byte => ?_
    exact (mild_ok []).ite ((ih _).bind fun _ => mild_ok _)

theorem mild_bufferText (buffer : Nat) : Mild (story.bufferText buffer) := by
  refine Mild.ite ?_ ?_
  · refine (story.memory.mild_readByte _).bind fun capacity => ?_
    exact (story.mild_bytesUntilZero _ _).bind fun _ => mild_ok _
  · refine (story.memory.mild_readByte _).bind fun length => ?_
    exact (story.memory.mild_readBytes _ _).bind fun _ => mild_ok _

end Dictionary

section Objects

theorem mild_objectAddress (object : Nat) : Mild (story.objectAddress object) :=
  (mild_error rfl).ite ((mild_error rfl).ite (mild_ok _))

theorem mild_link (link : Link) (object : Nat) : Mild (story.link link object) := by
  refine (story.mild_objectAddress object).bind fun address => ?_
  exact ((story.memory.mild_readByte _).bind fun _ => mild_ok _).ite
    ((story.memory.mild_readWord _).bind fun _ => mild_ok _)

theorem mild_previousSibling (object parent steps candidate : Nat) :
    Mild (story.previousSibling object parent steps candidate) := by
  induction steps generalizing candidate with
  | zero => exact mild_error rfl
  | succ steps ih =>
    unfold previousSibling
    refine Mild.ite_bind (mild_error rfl) fun _ => ?_
    refine (story.mild_link .sibling candidate).bind fun next => ?_
    exact (mild_ok candidate).ite (ih next)

theorem mild_isAncestor (object steps candidate : Nat) :
    Mild (story.isAncestor object steps candidate) := by
  induction steps generalizing candidate with
  | zero => exact mild_ok false
  | succ steps ih =>
    refine (mild_ok false).ite ((mild_ok true).ite ?_)
    exact (story.mild_link .parent candidate).bind fun next => ih next

theorem mild_attributeAddress (access : AttributeAccess) (object number : Nat) :
    Mild (story.attributeAddress access object number) := by
  refine (story.mild_objectAddress object).bind fun address => ?_
  exact (mild_error rfl).ite_bind fun _ => mild_ok _

theorem mild_hasAttribute (object number : Nat) : Mild (story.hasAttribute object number) := by
  refine (story.mild_attributeAddress .test object number).bind fun address => ?_
  exact (story.memory.mild_readByte address).bind fun _ => mild_ok _

theorem mild_propertyTable (object : Nat) : Mild (story.propertyTable object) :=
  (story.mild_objectAddress object).bind fun _ =>
    (story.memory.mild_readWord _).bind fun _ => mild_ok _

theorem mild_firstProperty (object : Nat) : Mild (story.firstProperty object) :=
  (story.mild_propertyTable object).bind fun _ =>
    (story.memory.mild_readByte _).bind fun _ => mild_ok _

theorem mild_propertyAt (address : Nat) : Mild (story.propertyAt address) := by
  refine (story.memory.mild_readByte address).bind fun size => ?_
  refine (mild_ok _).ite (Mild.ite ?_ ((mild_ok _).ite (mild_ok _)))
  exact (story.memory.mild_readByte _).bind fun _ => mild_ok _

theorem mild_findProperty (number address : Nat) : Mild (story.findProperty number address) := by
  fun_induction Story.findProperty story number address with
  | case1 | case3 | case4 => exact mild_ok _
  | case2 address _ error failed => exact mild_error (story.mild_propertyAt address error failed)
  | case5 _ _ _ _ _ _ ih => exact ih

theorem mild_property? (object number : Nat) : Mild (story.property? object number) :=
  (story.mild_firstProperty object).bind fun address => story.mild_findProperty number address

theorem mild_checkProperty (object number : Nat) : Mild (story.checkProperty object number) :=
  (mild_error rfl).ite (mild_ok ())

theorem mild_propertyDataAddress (object number : Nat) :
    Mild (story.propertyDataAddress object number) := by
  refine (story.mild_checkProperty object number).bind fun _ => ?_
  refine (story.mild_property? object number).bind fun property => ?_
  split
  · exact mild_ok _
  · exact mild_ok _

theorem mild_propertyLength (data : Nat) : Mild (story.propertyLength data) := by
  refine (mild_ok 0).ite ?_
  refine (story.memory.mild_readByte _).bind fun size => ?_
  exact (mild_ok _).ite ((mild_ok _).ite ((mild_ok _).ite (mild_ok _)))

theorem mild_shortName (object : Nat) : Mild (story.shortName object) :=
  (story.mild_propertyTable object).bind fun _ =>
    (story.memory.mild_readByte _).bind fun _ => story.memory.mild_readWords _ _

theorem mild_defaultProperty (object number : Nat) : Mild (story.defaultProperty object number) :=
  (mild_error rfl).ite_bind fun _ => story.memory.mild_readWord _

theorem mild_propertyValue (object number : Nat) : Mild (story.propertyValue object number) := by
  refine (story.mild_checkProperty object number).bind fun _ => ?_
  refine (story.mild_property? object number).bind fun property => ?_
  split
  · exact story.mild_defaultProperty object number
  · exact (story.memory.mild_readByte _).bind fun _ => mild_ok _
  · exact story.memory.mild_readWord _
  · exact mild_error rfl

theorem mild_nextProperty (object number : Nat) : Mild (story.nextProperty object number) := by
  have size (address : Nat) : Mild (do
      let size ← story.memory.readByte address
      return size.toNat % if story.version < .v4 then 32 else 64 : Except Error Nat) :=
    (story.memory.mild_readByte address).bind fun _ => mild_ok _
  refine Mild.ite ((story.mild_firstProperty object).bind size) ?_
  refine (story.mild_property? object number).bind fun property => ?_
  split
  · exact (mild_ok _).bind size
  · exact (mild_error rfl).bind size

end Objects

section Input

theorem mild_bufferCapacity (buffer : Nat) : Mild (story.bufferCapacity buffer) :=
  (story.memory.mild_readByte buffer).bind fun _ => mild_ok _

theorem mild_preloaded (buffer capacity : Nat) : Mild (story.preloaded buffer capacity) := by
  refine (mild_ok []).ite ?_
  refine (story.memory.mild_readByte _).bind fun count => ?_
  exact (story.memory.mild_readBytes _ _).bind fun _ => mild_ok _

theorem mild_terminators : Mild story.terminators :=
  (mild_ok []).ite ((story.memory.mild_zeroByteFrom _).bind fun _ => mild_ok _)

end Input

section Code

theorem mild_routine (address : Nat) : Mild (story.routine address) := by
  refine (story.memory.mild_readByte address).bind fun count => ?_
  refine Mild.ite_bind (mild_error rfl) fun _ => ?_
  exact ((story.memory.mild_readWords _ _).bind fun _ => mild_ok _).ite (mild_ok _)

theorem mild_decodeInstruction (address : Nat) : Mild (story.decodeInstruction address) :=
  (Instruction.mild_scan story.memory story.version address).bind fun _ => mild_ok _

end Code

end Story

theorem mild_checkWindow (value : UInt16) : Mild (checkWindow value) :=
  (mild_ok _).ite (mild_error rfl)

theorem mild_checkColour (value : UInt16) : Mild (checkColour value) :=
  (mild_ok _).ite (mild_error rfl)

theorem mild_checkWindowProperty (value : UInt16) : Mild (checkWindowProperty value) :=
  (mild_error rfl).ite (mild_ok _)

end StoryMachine
