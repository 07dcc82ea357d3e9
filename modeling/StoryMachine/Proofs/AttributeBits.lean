import StoryMachine.Object.Attribute
import StoryMachine.Object.Property
import StoryMachine.Proofs.ObjectMoves
import StoryMachine.Proofs.Regions

/-! The attributes of objects are bits of their own. Each attribute of each object has its bit in a
byte that holds attributes and nothing else, so that a change to one leaves all others, the links
and the property tables as they are. -/

namespace StoryMachine

/-- The bit of a byte that an attribute has. Attributes are counted from the top bit. -/
def attributeBit (byte : UInt8) (number : Nat) : Bool :=
  byte.toBitVec.getMsbD (number % 8)

def withAttributeBit (byte : UInt8) (number : Nat) (value : Bool) : UInt8 :=
  if value then byte ||| attributeMask number else byte &&& ~~~attributeMask number

theorem attributeBit_mask (number index : Nat) :
    attributeBit (attributeMask number) index = decide (index % 8 = number % 8) := by
  have bits : ∀ place bit : Fin 8,
      (0x80 >>> UInt8.ofNat place : UInt8).toBitVec.getMsbD bit = decide (bit.val = place.val) := by
    decide
  exact bits ⟨number % 8, Nat.mod_lt _ (by decide)⟩ ⟨index % 8, Nat.mod_lt _ (by decide)⟩

theorem attributeBit_or (first second : UInt8) (number : Nat) :
    attributeBit (first ||| second) number =
      (attributeBit first number || attributeBit second number) := by
  simp [attributeBit]

theorem attributeBit_and (first second : UInt8) (number : Nat) :
    attributeBit (first &&& second) number =
      (attributeBit first number && attributeBit second number) := by
  simp [attributeBit]

theorem attributeBit_not (byte : UInt8) (number : Nat) :
    attributeBit (~~~byte) number = !attributeBit byte number := by
  have small : number % 8 < 8 := Nat.mod_lt _ (by decide)
  simp [attributeBit, small]

theorem eq_of_attributeBit_eq {first second : UInt8}
    (same : ∀ number, attributeBit first number = attributeBit second number) :
    first = second := by
  apply UInt8.toBitVec_inj.mp
  apply BitVec.eq_of_getMsbD_eq
  intro bit small
  have here := same bit
  rwa [attributeBit, attributeBit, Nat.mod_eq_of_lt small] at here

/-- Testing a byte against the mask of an attribute reads the attribute's bit. -/
theorem and_attributeMask_eq_iff (byte : UInt8) (number : Nat) :
    byte &&& attributeMask number = attributeMask number ↔ attributeBit byte number = true := by
  constructor
  · intro covered
    have bit := congrArg (attributeBit · number) covered
    simpa [attributeBit_and, attributeBit_mask] using bit
  · intro bit
    apply eq_of_attributeBit_eq
    intro index
    rw [attributeBit_and, attributeBit_mask]
    by_cases same : index % 8 = number % 8
    · rw [attributeBit, ← same] at bit
      simp [attributeBit, bit]
    · simp [same]

theorem attributeBit_withAttributeBit (byte : UInt8) (number index : Nat) (value : Bool) :
    attributeBit (withAttributeBit byte number value) index =
      if index % 8 = number % 8 then value else attributeBit byte index := by
  cases value with
  | true =>
    rw [withAttributeBit, if_pos rfl, attributeBit_or, attributeBit_mask]
    split <;> simp [*]
  | false =>
    rw [withAttributeBit, if_neg Bool.false_ne_true, attributeBit_and, attributeBit_not,
      attributeBit_mask]
    split <;> simp [*]

namespace Story

variable {story after : Story} {object other number index : Nat}

def attributePlace (story : Story) (object number : Nat) : Nat :=
  story.entryAddress object + number / 8

/-- Attributes are in one byte only if they are of one object. -/
theorem attributePlace_eq_iff (first : 1 ≤ object) (second : 1 ≤ other)
    (numbered : number < story.version.attributeCount)
    (numbered' : index < story.version.attributeCount) :
    story.attributePlace other index = story.attributePlace object number ↔
      other = object ∧ index / 8 = number / 8 := by
  simp only [attributePlace, entryAddress, Version.attributeCount, Version.objectEntrySize] at *
  by_cases early : story.version < .v4
  all_goals simp only [early, ite_true, ite_false] at *
  all_goals omega

/-- What follows the attributes in an entry is not in a byte of attributes. -/
theorem attributePlace_ne (numbered : number < story.version.attributeCount) {offset : Nat}
    (after : story.version.attributeCount / 8 ≤ offset)
    (within : offset < story.version.objectEntrySize) :
    story.entryAddress other + offset ≠ story.attributePlace object number := by
  simp only [attributePlace, entryAddress, Version.attributeCount, Version.objectEntrySize] at *
  by_cases early : story.version < .v4
  all_goals simp only [early, ite_true, ite_false] at *
  all_goals omega

theorem attributePlace_lt (object : Nat) (numbered : number < story.version.attributeCount) :
    story.attributePlace object number <
      story.entryAddress object + story.version.objectEntrySize := by
  simp only [attributePlace, Version.attributeCount, Version.objectEntrySize] at *
  by_cases early : story.version < .v4
  all_goals simp only [early, ite_true, ite_false] at *
  all_goals omega

section Entry

variable (entry : story.HasEntry object) (numbered : number < story.version.attributeCount)
include entry numbered

theorem attributeAddress_eq (access : AttributeAccess) :
    story.attributeAddress access object number = .ok (story.attributePlace object number) := by
  simp only [attributeAddress, entry.objectAddress, bind, Except.bind, pure, Except.pure,
    if_neg (Nat.not_le_of_lt numbered), attributePlace]

theorem readByte_attributePlace :
    story.memory.readByte (story.attributePlace object number) =
      .ok (story.memory.byteAt (story.attributePlace object number)) :=
  Memory.readByte_eq_ok_iff.mpr
    ⟨Nat.lt_of_lt_of_le (attributePlace_lt object numbered) entry.2.2, rfl⟩

/-- An attribute as its bit has it. -/
theorem hasAttribute_eq : story.hasAttribute object number =
    .ok (attributeBit (story.memory.byteAt (story.attributePlace object number)) number) := by
  simp only [hasAttribute, attributeAddress_eq entry numbered,
    readByte_attributePlace entry numbered, bind, Except.bind, pure, Except.pure,
    and_attributeMask_eq_iff, Bool.decide_eq_true]

end Entry

namespace ChangedOnly

variable {touched : Nat → Prop} (only : ChangedOnly touched story after)
  (header : ∀ address < headerSize, ¬ touched address)
include only header

theorem objectAddress (object : Nat) : after.objectAddress object = story.objectAddress object := by
  simp only [Story.objectAddress, only.objectTable header, only.version, only.size]

variable (beyond : ∀ other offset, story.version.attributeCount / 8 ≤ offset →
  offset < story.version.objectEntrySize → ¬ touched (story.entryAddress other + offset))
include beyond

/-- The links come after the attributes, so they say the same where only attributes may have
changed. -/
theorem link (link : Link) (other : Nat) : after.link link other = story.link link other := by
  simp only [Story.link, only.objectAddress header, only.version]
  cases found : story.objectAddress other with
  | error error => rfl
  | ok address =>
    obtain ⟨-, rfl⟩ := objectAddress_eq_ok_iff.mp found
    have outside := beyond other
    simp only [Version.attributeCount, Version.objectEntrySize, Link.offset, bind, Except.bind]
      at outside ⊢
    by_cases early : story.version < .v4
    · simp only [early, ite_true] at outside ⊢
      rw [only.readByte (outside _ ?_ ?_)]
      all_goals cases link <;> decide
    · simp only [early, ite_false] at outside ⊢
      rw [only.readWord (outside _ ?_ ?_) (outside (_ + 1) ?_ ?_)]
      all_goals cases link <;> decide

theorem propertyTable_eq (other : Nat) : after.propertyTable other = story.propertyTable other := by
  simp only [Story.propertyTable, only.objectAddress header, only.version]
  cases found : story.objectAddress other with
  | error error => rfl
  | ok address =>
    obtain ⟨-, rfl⟩ := objectAddress_eq_ok_iff.mp found
    have outside := beyond other
    simp only [Version.attributeCount, Version.objectEntrySize, bind, Except.bind] at outside ⊢
    by_cases early : story.version < .v4
    all_goals
      simp only [early, ite_true, ite_false] at outside ⊢
      rw [only.readWord (outside _ (by decide) (by decide))
        (outside (_ + 1) (by decide) (by decide))]

end ChangedOnly

end Story

namespace Update
open Story

def attributeWritten (story : Story) (object number : Nat) (value : Bool) : Story :=
  let place := story.attributePlace object number
  { story with
    memory := story.memory.put place
      (withAttributeBit (story.memory.byteAt place) number value) }

/-- Setting or clearing an attribute writes its byte, with its bit changed. -/
theorem assignAttribute_eq {story : Story} {object number : Nat} (entry : story.HasEntry object)
    (dynamic : story.entryAddress object + story.version.objectEntrySize ≤
      story.memory.staticMark) (numbered : number < story.version.attributeCount) (value : Bool) :
    (if value then setAttribute object number else clearAttribute object number) story =
      .ok () (attributeWritten story object number value) := by
  have inside := Nat.lt_of_lt_of_le (attributePlace_lt object numbered) dynamic
  have located (access : AttributeAccess) := attributeAddress_eq entry numbered access
  have read := readByte_attributePlace entry numbered
  cases value with
  | true =>
    rw [if_pos rfl, setAttribute, bind_of_ok (query_of_ok (located .set)),
      bind_of_ok (query_of_ok read), writeByte_eq, if_pos inside]
    rfl
  | false =>
    rw [if_neg Bool.false_ne_true, clearAttribute, bind_of_ok (query_of_ok (located .clear)),
      bind_of_ok (query_of_ok read), writeByte_eq, if_pos inside]
    rfl

theorem changedOnly_attributeWritten (story : Story) (object number : Nat) (value : Bool) :
    ChangedOnly (· = story.attributePlace object number) story
      (attributeWritten story object number value) :=
  .put (· = story.attributePlace object number) story rfl _

section Written

variable {story : Story} {object other number index : Nat}
  (afterHeader : headerSize ≤ (story.memory.headerWord .objectTable).toNat)
include afterHeader

theorem header_ne_attributePlace (object number : Nat) :
    ∀ address < headerSize, address ≠ story.attributePlace object number := by
  rw [attributePlace, entryAddress]
  omega

/-- A written attribute says what was written, and all others what they said. -/
theorem hasAttribute_attributeWritten (entry : story.HasEntry object)
    (entry' : story.HasEntry other) (numbered : number < story.version.attributeCount)
    (numbered' : index < story.version.attributeCount) (value : Bool) :
    (attributeWritten story object number value).hasAttribute other index =
      .ok (if other = object ∧ index = number then value
        else attributeBit (story.memory.byteAt (story.attributePlace other index)) index) := by
  have only := changedOnly_attributeWritten story object number value
  have header := header_ne_attributePlace afterHeader object number
  have inside := Nat.lt_of_lt_of_le (attributePlace_lt object numbered) entry.2.2
  have place : (attributeWritten story object number value).attributePlace other index =
      story.attributePlace other index := by
    rw [attributePlace, attributePlace, only.entryAddress header]
  rw [hasAttribute_eq ((only.hasEntry_iff header other).mpr entry') (only.version ▸ numbered'),
    place, attributeWritten, Memory.byteAt_put inside]
  congr 1
  by_cases together : story.attributePlace other index = story.attributePlace object number
  · obtain ⟨rfl, byte⟩ :=
      (attributePlace_eq_iff entry.1 entry'.1 numbered numbered').mp together
    have same : index % 8 = number % 8 ↔ index = number := by omega
    rw [if_pos together, attributeBit_withAttributeBit, together]
    simp only [same, true_and]
  · rw [if_neg together, if_neg]
    rintro ⟨rfl, rfl⟩
    exact together rfl

end Written

/-- Attributes are independent. Setting or clearing an attribute of an object whose entry is in
dynamic memory succeeds. Then the object has the attribute, or has it no more; every other
attribute, of this object and of all others, is as it was, and so are all links and property tables.
Not more than one byte of memory has changed. -/
theorem attributes_are_independent {story : Story} {object number : Nat}
    (afterHeader : headerSize ≤ (story.memory.headerWord .objectTable).toNat)
    (entry : story.HasEntry object)
    (dynamic : story.entryAddress object + story.version.objectEntrySize ≤
      story.memory.staticMark)
    (numbered : number < story.version.attributeCount) (value : Bool) :
    ∃ after, (if value then setAttribute object number else clearAttribute object number) story =
        .ok () after ∧
      (∀ other index, story.HasEntry other → index < story.version.attributeCount →
        ∃ before, story.hasAttribute other index = .ok before ∧
          after.hasAttribute other index =
            .ok (if other = object ∧ index = number then value else before)) ∧
      (∀ link other, after.link link other = story.link link other) ∧
      (∀ other, after.propertyTable other = story.propertyTable other) ∧
      ∃ place, ChangedOnly (· = place) story after := by
  have only := changedOnly_attributeWritten story object number value
  have header := header_ne_attributePlace afterHeader object number
  have beyond (other offset : Nat) (after : story.version.attributeCount / 8 ≤ offset)
      (within : offset < story.version.objectEntrySize) :
      story.entryAddress other + offset ≠ story.attributePlace object number :=
    attributePlace_ne numbered after within
  refine ⟨_, assignAttribute_eq entry dynamic numbered value, ?_, only.link header beyond,
    only.propertyTable_eq header beyond, _, only⟩
  intro other index entry' numbered'
  exact ⟨_, hasAttribute_eq entry' numbered',
    hasAttribute_attributeWritten afterHeader entry entry' numbered numbered' value⟩

theorem attributes_are_independent_family :
    (∃ after, setAttribute 2 31 familyStory = .ok () after ∧
      after.hasAttribute 2 31 = .ok true ∧ after.hasAttribute 2 30 = .ok false ∧
      after.hasAttribute 3 31 = .ok false ∧ after.link .parent 2 = .ok 1) ∧
    ∃ after, clearAttribute 2 31 familyStory = .ok () after ∧
      after.hasAttribute 2 31 = .ok false := by
  have entry (other : Nat) (member : other ∈ [2, 3]) : familyStory.HasEntry other := by
    revert other
    decide +kernel
  have changes := @attributes_are_independent familyStory 2 31 (by decide +kernel)
    (entry 2 (by decide)) (by decide +kernel) (by decide)
  refine ⟨?_, ?_⟩
  · obtain ⟨after, ran, attributes, links, -⟩ := changes true
    have second : familyStory.hasAttribute 2 30 = .ok false := by decide +kernel
    have third : familyStory.hasAttribute 3 31 = .ok false := by decide +kernel
    obtain ⟨_, -, gained⟩ := attributes 2 31 (entry 2 (by decide)) (by decide)
    obtain ⟨_, read, same⟩ := attributes 2 30 (entry 2 (by decide)) (by decide)
    cases read.symm.trans second
    obtain ⟨_, read, same'⟩ := attributes 3 31 (entry 3 (by decide)) (by decide)
    cases read.symm.trans third
    exact ⟨after, ran, gained, same, same', (links .parent 2).trans (by decide +kernel)⟩
  · obtain ⟨after, ran, attributes, -⟩ := changes false
    obtain ⟨_, -, cleared⟩ := attributes 2 31 (entry 2 (by decide)) (by decide)
    exact ⟨after, ran, cleared⟩

end Update

end StoryMachine
