import StoryMachine.Proofs.Running
import StoryMachine.Proofs.StoredBytes

/-! What a write changes. The bytes it is given an address for may change; the rest of memory, its
size and what was fixed when the story was loaded stay. Since writes at or past the static mark
fail, an update changes nothing there. -/

namespace StoryMachine

namespace Memory

theorem byteAt_put_of_ne (memory : Memory) {address other : Nat} (different : other ≠ address)
    (value : UInt8) : (memory.put address value).byteAt other = memory.byteAt other := by
  simp only [put, byteAt, imageByte, Array.getD_eq_getD_getElem?,
    Array.getElem?_setIfInBounds_ne (Ne.symm different)]

end Memory

namespace Story

/-- Between two states of a story, only bytes at the touched addresses may have changed. -/
structure ChangedOnly (touched : Nat → Prop) (before after : Story) : Prop where
  format : after.format = before.format
  size : after.memory.size = before.memory.size
  staticMark : after.memory.staticMark = before.memory.staticMark
  fileLength : after.memory.fileLength = before.memory.fileLength
  pristine : after.memory.pristine = before.memory.pristine
  elsewhere : ∀ address, ¬ touched address →
    after.memory.byteAt address = before.memory.byteAt address

namespace ChangedOnly

variable {touched : Nat → Prop} {before middle after : Story}

theorem refl (touched : Nat → Prop) (story : Story) : ChangedOnly touched story story :=
  ⟨rfl, rfl, rfl, rfl, rfl, fun _ _ => rfl⟩

theorem trans (first : ChangedOnly touched before middle)
    (second : ChangedOnly touched middle after) : ChangedOnly touched before after where
  format := second.format.trans first.format
  size := second.size.trans first.size
  staticMark := second.staticMark.trans first.staticMark
  fileLength := second.fileLength.trans first.fileLength
  pristine := second.pristine.trans first.pristine
  elsewhere address outside :=
    (second.elsewhere address outside).trans (first.elsewhere address outside)

theorem mono {wider : Nat → Prop} (changed : ChangedOnly touched before after)
    (inside : ∀ address, touched address → wider address) : ChangedOnly wider before after :=
  { changed with elsewhere := fun address outside =>
      changed.elsewhere address fun member => outside (inside address member) }

theorem version (changed : ChangedOnly touched before after) :
    after.version = before.version := by
  simp only [Story.version, changed.format]

theorem wordAt (changed : ChangedOnly touched before after) {address : Nat}
    (high : ¬ touched address) (low : ¬ touched (address + 1)) :
    after.memory.wordAt address = before.memory.wordAt address := by
  rw [Memory.wordAt_eq, Memory.wordAt_eq, changed.elsewhere _ high, changed.elsewhere _ low]

/-- Bytes that are not touched stay where they are. -/
theorem holds (changed : ChangedOnly touched before after) {address : Nat} {bytes : List UInt8}
    (apart : ∀ index < bytes.length, ¬ touched (address + index))
    (held : before.memory.Holds address bytes) : after.memory.Holds address bytes := by
  intro index inside
  obtain ⟨bound, value⟩ := Memory.readByte_eq_ok_iff.mp (held index inside)
  rw [← changed.size] at bound
  rw [← changed.elsewhere _ (apart index inside)] at value
  exact Memory.readByte_eq_ok_iff.mpr ⟨bound, value⟩

theorem put (touched : Nat → Prop) (story : Story) {address : Nat} (member : touched address)
    (value : UInt8) :
    ChangedOnly touched story { story with memory := story.memory.put address value } where
  format := rfl
  size := Memory.size_put ..
  staticMark := rfl
  fileLength := rfl
  pristine := rfl
  elsewhere other outside := by
    apply Memory.byteAt_put_of_ne
    rintro rfl
    exact outside member

theorem putWord (touched : Nat → Prop) (story : Story) {address : Nat} (high : touched address)
    (low : touched (address + 1)) (value : UInt16) :
    ChangedOnly touched story { story with memory := story.memory.putWord address value } :=
  (put touched story high (highByte value)).trans (put touched _ low (lowByte value))

end ChangedOnly

def SameStatic (before after : Story) : Prop :=
  ChangedOnly (· < before.memory.staticMark) before after

namespace SameStatic

instance : IsPreorder Story SameStatic where
  refl story := .refl _ story
  trans before middle after first second := by
    have later : ChangedOnly (· < before.memory.staticMark) middle after :=
      first.staticMark ▸ second
    exact first.trans later

theorem put (story : Story) {address : Nat} (inside : address < story.memory.staticMark)
    (value : UInt8) : SameStatic story { story with memory := story.memory.put address value } :=
  ChangedOnly.put (· < story.memory.staticMark) story inside value

theorem putWord (story : Story) {address : Nat} (inside : address + 1 < story.memory.staticMark)
    (value : UInt16) :
    SameStatic story { story with memory := story.memory.putWord address value } :=
  ChangedOnly.putWord (· < story.memory.staticMark) story (Nat.lt_of_succ_lt inside) inside value

end SameStatic

end Story

namespace Update
open Story

theorem keeps_modifyMemory {relation : Story → Story → Prop} [IsPreorder Story relation]
    {write : Memory → Except Error Memory}
    (related : ∀ story memory, write story.memory = .ok memory →
      relation story { story with memory }) :
    Keeps relation (modifyMemory write) := by
  intro before
  cases ran : write before.memory with
  | ok memory =>
    simp only [modifyMemory, ran]
    exact related before memory ran
  | error error =>
    simp only [modifyMemory, ran]
    exact refl_of relation before

theorem writeByte_eq (address : Nat) (value : UInt8) (story : Story) :
    writeByte address value story =
      if address < story.memory.staticMark then
        .ok () { story with memory := story.memory.put address value }
      else
        .error (.byteWriteOutside address story.memory.staticMark) story := by
  by_cases inside : address < story.memory.staticMark <;>
    simp only [writeByte, modifyMemory, Memory.writeByte, inside, ite_true, ite_false]

theorem writeWord_eq (address : Nat) (value : UInt16) (story : Story) :
    writeWord address value story =
      if address + 1 < story.memory.staticMark then
        .ok () { story with memory := story.memory.putWord address value }
      else
        .error (.wordWriteOutside address story.memory.staticMark) story := by
  by_cases inside : address + 1 < story.memory.staticMark <;>
    simp only [writeWord, modifyMemory, Memory.writeWord, inside, ite_true, ite_false]

theorem keeps_writeByte (address : Nat) (value : UInt8) :
    Keeps SameStatic (writeByte address value) := by
  apply keeps_modifyMemory
  intro story memory written
  rw [Memory.writeByte] at written
  split at written
  next inside =>
    cases written
    exact .put story inside value
  next => cases written

theorem keeps_writeWord (address : Nat) (value : UInt16) :
    Keeps SameStatic (writeWord address value) := by
  apply keeps_modifyMemory
  intro story memory written
  rw [Memory.writeWord] at written
  split at written
  next inside =>
    cases written
    exact .putWord story inside value
  next => cases written

theorem keeps_writeBytes (address : Nat) (values : List UInt8) :
    Keeps SameStatic (writeBytes address values) := by
  induction values generalizing address with
  | nil => exact keeps_pure ()
  | cons value rest ih => exact (keeps_writeByte address value).bind fun _ => ih (address + 1)

theorem keeps_writeWords (address : Nat) (values : List UInt16) :
    Keeps SameStatic (writeWords address values) := by
  induction values generalizing address with
  | nil => exact keeps_pure ()
  | cons value rest ih => exact (keeps_writeWord address value).bind fun _ => ih (address + 2)

end Update

end StoryMachine
