import StoryMachine.Proofs.Writes

/-! Regions of memory. What is written inside one region leaves everything outside of it as it was,
so that whatever is read there is read again. -/

namespace StoryMachine

structure Region where
  start : Nat
  stop : Nat
  deriving DecidableEq, Repr

namespace Region

instance : Membership Nat Region where
  mem region address := region.start ≤ address ∧ address < region.stop

instance (address : Nat) (region : Region) : Decidable (address ∈ region) :=
  inferInstanceAs (Decidable (region.start ≤ address ∧ address < region.stop))

theorem mem_iff {address : Nat} {region : Region} :
    address ∈ region ↔ region.start ≤ address ∧ address < region.stop := Iff.rfl

@[simp] theorem mem_mk {address start stop : Nat} :
    address ∈ Region.mk start stop ↔ start ≤ address ∧ address < stop := Iff.rfl

def Apart (first second : Region) : Prop :=
  first.stop ≤ second.start ∨ second.stop ≤ first.start

instance (first second : Region) : Decidable (first.Apart second) :=
  inferInstanceAs (Decidable (_ ∨ _))

theorem Apart.not_mem {first second : Region} (apart : first.Apart second) {address : Nat}
    (member : address ∈ second) : address ∉ first := by
  simp only [Apart, mem_iff] at *
  omega

end Region

namespace Memory

/-- Bytes are read one after the other where they can be found so. -/
theorem readBytes_eq_ok_iff {memory : Memory} {address count : Nat} {bytes : List UInt8} :
    memory.readBytes address count = .ok bytes ↔
      bytes.length = count ∧ memory.Holds address bytes := by
  induction count generalizing address bytes with
  | zero =>
    have none : memory.readBytes address 0 = .ok [] := rfl
    rw [none, Except.ok.injEq, List.length_eq_zero_iff]
    constructor
    · rintro rfl
      exact ⟨rfl, holds_nil memory address⟩
    · rintro ⟨rfl, -⟩
      rfl
  | succ count ih =>
    have split : memory.readBytes address (count + 1) = do
        let byte ← memory.readByte address
        let rest ← memory.readBytes (address + 1) count
        return byte :: rest := by
      simp only [readBytes, List.range'_succ, List.mapM_cons]
    rw [split]
    constructor
    · intro found
      cases first : memory.readByte address with
      | error error =>
        rw [first] at found
        cases found
      | ok byte =>
        cases others : memory.readBytes (address + 1) count with
        | error error =>
          rw [first, others] at found
          cases found
        | ok rest =>
          rw [first, others] at found
          cases found
          obtain ⟨length, held⟩ := ih.mp others
          exact ⟨by rw [List.length_cons, length], holds_cons.mpr ⟨first, held⟩⟩
    · rintro ⟨length, held⟩
      cases bytes with
      | nil => cases length
      | cons byte rest =>
        obtain ⟨first, held⟩ := holds_cons.mp held
        rw [first, ih.mpr ⟨Nat.succ.inj length, held⟩]
        rfl

theorem Holds.slice {memory : Memory} {address : Nat} {bytes : List UInt8}
    (held : memory.Holds address bytes) (start count : Nat) :
    memory.Holds (address + start) ((bytes.drop start).take count) := by
  intro index inside
  rw [List.length_take, List.length_drop] at inside
  rw [List.getElem_take, List.getElem_drop, Nat.add_assoc]
  exact held (start + index) (by omega)

/-- Bytes that lie in memory can be read one after the other. -/
theorem readBytes_ok (memory : Memory) {address count : Nat}
    (inside : address + count ≤ memory.size) :
    ∃ bytes, memory.readBytes address count = .ok bytes := by
  refine ⟨List.ofFn fun index : Fin count => memory.byteAt (address + index), ?_⟩
  refine readBytes_eq_ok_iff.mpr ⟨List.length_ofFn, ?_⟩
  intro index counted
  rw [List.length_ofFn] at counted
  rw [List.getElem_ofFn]
  exact readByte_eq_ok_iff.mpr ⟨by omega, rfl⟩

end Memory

namespace Story.ChangedOnly

variable {touched : Nat → Prop} {before after : Story}

instance (touched : Nat → Prop) : IsPreorder Story (ChangedOnly touched) where
  refl := .refl touched
  trans _ _ _ := .trans

theorem readByte (changed : ChangedOnly touched before after) {address : Nat}
    (outside : ¬ touched address) :
    after.memory.readByte address = before.memory.readByte address := by
  simp only [Memory.readByte, changed.size, changed.elsewhere address outside]

theorem readWord (changed : ChangedOnly touched before after) {address : Nat}
    (high : ¬ touched address) (low : ¬ touched (address + 1)) :
    after.memory.readWord address = before.memory.readWord address := by
  simp only [Memory.readWord, changed.size, changed.wordAt high low]

theorem readBytes (changed : ChangedOnly touched before after) {address count : Nat}
    (outside : ∀ place ∈ Region.mk address (address + count), ¬ touched place) :
    after.memory.readBytes address count = before.memory.readBytes address count := by
  induction count generalizing address with
  | zero => rfl
  | succ count ih =>
    have here := changed.readByte (outside address (Region.mem_mk.mpr (by omega)))
    have later : after.memory.readBytes (address + 1) count =
        before.memory.readBytes (address + 1) count := by
      apply ih
      intro place member
      rw [Region.mem_mk] at member
      exact outside place (Region.mem_mk.mpr (by omega))
    simp only [Memory.readBytes] at later
    simp only [Memory.readBytes, List.range'_succ, List.mapM_cons, here, later]

end Story.ChangedOnly

namespace Update
open Story

variable {touched : Nat → Prop}

theorem changes_writeByte {address : Nat} (member : touched address) (value : UInt8) :
    Keeps (ChangedOnly touched) (writeByte address value) := by
  intro before
  rw [writeByte_eq]
  split
  next => exact .put touched before member value
  next => exact .refl touched before

theorem changes_writeWord {address : Nat} (high : touched address) (low : touched (address + 1))
    (value : UInt16) : Keeps (ChangedOnly touched) (writeWord address value) := by
  intro before
  rw [writeWord_eq]
  split
  next => exact .putWord touched before high low value
  next => exact .refl touched before

/-- A word can be written in dynamic memory. -/
theorem writeWord_ok {address : Nat} {before : Story}
    (inside : address + 1 < before.memory.staticMark) (value : UInt16) :
    ∃ after, writeWord address value before = .ok () after ∧
      ChangedOnly (· ∈ Region.mk address (address + 2)) before after ∧
      after.memory.Holds address [highByte value, lowByte value] := by
  refine ⟨{ before with memory := before.memory.putWord address value }, ?_, ?_, ?_⟩
  · rw [writeWord_eq, if_pos inside]
  · apply ChangedOnly.putWord <;>
    · rw [Region.mem_mk]
      omega
  · exact Memory.holds_putWord (Nat.lt_of_lt_of_le inside before.memory.mark_le_size) value

theorem changes_writeBytes {address : Nat} {values : List UInt8}
    (members : ∀ place ∈ Region.mk address (address + values.length), touched place) :
    Keeps (ChangedOnly touched) (writeBytes address values) := by
  induction values generalizing address with
  | nil => exact keeps_pure ()
  | cons value rest ih =>
    simp only [List.length_cons, Region.mem_mk] at members
    refine (changes_writeByte (members address (by omega)) value).bind fun _ => ih ?_
    intro place member
    rw [Region.mem_mk] at member
    exact members place (by omega)

/-- What is written byte by byte can be read there. -/
theorem writeBytes_holds {address : Nat} {values : List UInt8} {before after : Story}
    (written : writeBytes address values before = .ok () after) :
    after.memory.Holds address values := by
  induction values generalizing address before with
  | nil => exact Memory.holds_nil _ _
  | cons value rest ih =>
    by_cases inside : address < before.memory.staticMark
    · have put : writeByte address value before =
          .ok () { before with memory := before.memory.put address value } := by
        rw [writeByte_eq, if_pos inside]
      rw [writeBytes, bind_of_ok put] at written
      have later : ChangedOnly (· ∈ Region.mk (address + 1) (address + 1 + rest.length))
          { before with memory := before.memory.put address value } after :=
        (changes_writeBytes fun _ member => member).of_ok written
      have stays : address ∉ Region.mk (address + 1) (address + 1 + rest.length) := by
        rw [Region.mem_mk]
        omega
      have held := Memory.holds_put (Nat.lt_of_lt_of_le inside before.memory.mark_le_size) value
      refine Memory.holds_cons.mpr ⟨?_, ih written⟩
      rw [later.readByte stays]
      exact (Memory.holds_cons.mp held).1
    · have refused : writeByte address value before =
          .error (.byteWriteOutside address before.memory.staticMark) before := by
        rw [writeByte_eq, if_neg inside]
      rw [writeBytes, bind_of_error refused] at written
      cases written

/-- Bytes can be written one after the other in dynamic memory. -/
theorem writeBytes_ok {address : Nat} {values : List UInt8} {before : Story}
    (inside : ∀ index < values.length, address + index < before.memory.staticMark) :
    ∃ after, writeBytes address values before = .ok () after := by
  induction values generalizing address before with
  | nil => exact ⟨before, rfl⟩
  | cons value rest ih =>
    have first : address < before.memory.staticMark := inside 0 (Nat.succ_pos _)
    have put : writeByte address value before =
        .ok () { before with memory := before.memory.put address value } := by
      rw [writeByte_eq, if_pos first]
    rw [writeBytes, bind_of_ok put]
    apply ih
    intro index later
    have next := inside (index + 1) (Nat.succ_lt_succ later)
    rwa [Nat.add_comm index, ← Nat.add_assoc] at next

end Update

end StoryMachine
