import Mathlib.Control.Monad.Basic
import StoryMachine.Text.ZString

/-! Bytes and words laid out in memory, what reading finds there, and what a write changes. Text
ends at the first word whose top bit is set, so a reader stops exactly after the words that were
stored. -/

namespace StoryMachine

def wordBytes (words : List UInt16) : List UInt8 :=
  words.flatMap fun value => [highByte value, lowByte value]

@[simp] theorem wordBytes_cons (value : UInt16) (rest : List UInt16) :
    wordBytes (value :: rest) = highByte value :: lowByte value :: wordBytes rest := rfl

@[simp] theorem wordBytes_length (words : List UInt16) :
    (wordBytes words).length = 2 * words.length := by
  induction words with
  | nil => rfl
  | cons value rest ih => simp [ih]; omega

theorem word_toNat (high low : UInt8) : (word high low).toNat = 256 * high.toNat + low.toNat := by
  have highBound := high.toNat_lt
  have lowBound := low.toNat_lt
  simp only [word, UInt16.toNat_ofNat']
  omega

@[simp] theorem word_bytes (value : UInt16) : word (highByte value) (lowByte value) = value := by
  have bound := value.toNat_lt
  apply UInt16.toNat.inj
  simp only [word_toNat, highByte, lowByte, UInt8.toNat_ofNat']
  omega

/-- An image with these bytes, and 0 elsewhere. -/
def imageOfBytes (size : Nat) (bytes : List (Nat × UInt8)) : Array UInt8 :=
  bytes.foldl (fun image entry => image.setIfInBounds entry.1 entry.2) (Array.replicate size 0)

namespace Memory

def ofStatic (bytes : Array UInt8) (enough : headerSize ≤ bytes.size) : Memory where
  bytes := bytes
  staticMark := headerSize
  fileLength := 0
  pristine := bytes.extract 0 headerSize
  header_le_mark := Nat.le_refl _
  mark_le_size := enough
  pristine_size := by simp [enough]

theorem readByte_eq_ok_iff {memory : Memory} {address : Nat} {value : UInt8} :
    memory.readByte address = .ok value ↔
      address < memory.size ∧ memory.byteAt address = value := by
  unfold readByte
  split
  next inside => simp [inside]
  next outside => simp [outside]

theorem readWord_eq_ok_iff {memory : Memory} {address : Nat} {value : UInt16} :
    memory.readWord address = .ok value ↔
      address + 1 < memory.size ∧ memory.wordAt address = value := by
  unfold readWord
  split
  next inside => simp [inside]
  next outside => simp [outside]

/-- These bytes can be read one after the other from an address. -/
def Holds (memory : Memory) (address : Nat) (bytes : List UInt8) : Prop :=
  ∀ index (inside : index < bytes.length), memory.readByte (address + index) = .ok bytes[index]

instance (memory : Memory) (address : Nat) (bytes : List UInt8) :
    Decidable (memory.Holds address bytes) :=
  inferInstanceAs (Decidable (∀ index (inside : index < bytes.length),
    memory.readByte (address + index) = .ok bytes[index]))

@[simp] theorem holds_nil (memory : Memory) (address : Nat) : memory.Holds address [] := by
  intro index inside
  cases inside

theorem holds_cons {memory : Memory} {address : Nat} {byte : UInt8} {rest : List UInt8} :
    memory.Holds address (byte :: rest) ↔
      memory.readByte address = .ok byte ∧ memory.Holds (address + 1) rest := by
  constructor
  · intro held
    refine ⟨held 0 (by simp), ?_⟩
    intro index inside
    have next := held (index + 1) (by simpa using inside)
    simpa only [List.getElem_cons_succ, Nat.add_assoc, Nat.add_comm 1 index] using next
  · rintro ⟨first, later⟩ index inside
    cases index with
    | zero => exact first
    | succ index =>
      have next := later index (by simpa using inside)
      simpa only [List.getElem_cons_succ, Nat.add_assoc, Nat.add_comm 1 index] using next

theorem holds_append {memory : Memory} {address : Nat} {first second : List UInt8} :
    memory.Holds address (first ++ second) ↔
      memory.Holds address first ∧ memory.Holds (address + first.length) second := by
  induction first generalizing address with
  | nil => simp
  | cons byte rest ih =>
    have place : address + 1 + rest.length = address + (byte :: rest).length := by
      simp only [List.length_cons]
      omega
    simp only [List.cons_append, holds_cons, ih, place, and_assoc]

theorem readWord_of_readByte {memory : Memory} {address : Nat} {high low : UInt8}
    (first : memory.readByte address = .ok high)
    (second : memory.readByte (address + 1) = .ok low) :
    memory.readWord address = .ok (word high low) := by
  rw [readByte_eq_ok_iff] at first second
  rw [readWord_eq_ok_iff]
  refine ⟨second.1, ?_⟩
  rw [← first.2, ← second.2]
  rfl

theorem holds_word {memory : Memory} {address : Nat} {value : UInt16} {rest : List UInt8}
    (held : memory.Holds address (highByte value :: lowByte value :: rest)) :
    memory.readWord address = .ok value ∧ memory.Holds (address + 2) rest := by
  obtain ⟨high, low, later⟩ := holds_cons.mp held |>.imp_right holds_cons.mp
  exact ⟨by simpa using readWord_of_readByte high low, later⟩

theorem byteAt_put {memory : Memory} {address : Nat} (inside : address < memory.size)
    (value : UInt8) (other : Nat) :
    (memory.put address value).byteAt other =
      if other = address then value else memory.byteAt other := by
  simp only [put, byteAt, imageByte, Array.getD_eq_getD_getElem?, Array.getElem?_setIfInBounds]
  by_cases same : other = address
  · subst same
    have present : other < memory.bytes.size := inside
    simp [present]
  · rw [if_neg (Ne.symm same), if_neg same]

@[simp] theorem size_put (memory : Memory) (address : Nat) (value : UInt8) :
    (memory.put address value).size = memory.size := by
  simp [put, size]

theorem byteAt_putWord {memory : Memory} {address : Nat} (inside : address + 1 < memory.size)
    (value : UInt16) (other : Nat) :
    (memory.putWord address value).byteAt other =
      if other = address + 1 then lowByte value
      else if other = address then highByte value else memory.byteAt other := by
  rw [putWord, byteAt_put (by simpa using inside), byteAt_put (by omega)]

/-- A byte can be read where it was written. -/
theorem holds_put {memory : Memory} {address : Nat} (inside : address < memory.size)
    (value : UInt8) : (memory.put address value).Holds address [value] := by
  refine holds_cons.mpr ⟨readByte_eq_ok_iff.mpr ⟨by simpa using inside, ?_⟩, holds_nil _ _⟩
  rw [byteAt_put inside, if_pos rfl]

theorem holds_putWord {memory : Memory} {address : Nat} (inside : address + 1 < memory.size)
    (value : UInt16) :
    (memory.putWord address value).Holds address [highByte value, lowByte value] := by
  refine holds_cons.mpr ⟨readByte_eq_ok_iff.mpr ⟨?_, ?_⟩, ?_⟩
  · rw [putWord, size_put, size_put]
    omega
  · rw [byteAt_putWord inside, if_neg (by omega), if_pos rfl]
  · exact holds_put (by simpa using inside) (lowByte value)

theorem wordAt_eq (memory : Memory) (address : Nat) :
    memory.wordAt address = word (memory.byteAt address) (memory.byteAt (address + 1)) := rfl

/-- A word is read back from where it was written. -/
theorem wordAt_putWord {memory : Memory} {address : Nat} (inside : address + 1 < memory.size)
    (value : UInt16) : (memory.putWord address value).wordAt address = value := by
  simp [wordAt_eq, byteAt_putWord inside]

end Memory

/-- The top bit is set on the last word and on no other; there is a last word. -/
def ZString.Terminated (words : List UInt16) : Prop :=
  ∃ front last, words = front ++ [last] ∧ last.toNat.testBit 15 = true ∧
    ∀ value ∈ front, value.toNat.testBit 15 = false

theorem ZString.isLast_eq_testBit (value : UInt16) : isLast value = value.toNat.testBit 15 := by
  have bound := value.toNat_lt
  have threshold : (0x8000 : UInt16).toNat = 0x8000 := rfl
  rw [Nat.testBit_eq_decide_div_mod_eq, isLast]
  apply decide_eq_decide.mpr
  rw [UInt16.le_iff_toNat_le, threshold]
  omega

namespace Memory
open ZString

/-- The end of stored text is found after its last word. -/
theorem textEnd_of_holds {memory : Memory} {words : List UInt16} (terminated : Terminated words)
    {address : Nat} (held : memory.Holds address (wordBytes words)) :
    memory.textEnd address = .ok (address + 2 * words.length) := by
  obtain ⟨front, last, rfl, marked, unmarked⟩ := terminated
  induction front generalizing address with
  | nil =>
    obtain ⟨inside, value⟩ := readWord_eq_ok_iff.mp (holds_word held).1
    rw [textEnd]
    simp [inside, value, isLast_eq_testBit, marked]
  | cons first front ih =>
    obtain ⟨read, later⟩ := holds_word held
    obtain ⟨inside, value⟩ := readWord_eq_ok_iff.mp read
    have unended : isLast first = false := by
      simpa only [isLast_eq_testBit] using unmarked first (by simp)
    rw [textEnd]
    simp only [inside, value, unended, ite_true]
    have rest := ih later (fun value member => unmarked value (by simp [member]))
    simp only [List.cons_append, List.length_cons, Bool.false_eq_true, ite_false] at rest ⊢
    rw [rest]
    congr 1
    omega

theorem map_wordAt_of_holds {memory : Memory} {words : List UInt16} {address : Nat}
    (held : memory.Holds address (wordBytes words)) :
    (List.range' address words.length 2).map memory.wordAt = words := by
  induction words generalizing address with
  | nil => rfl
  | cons value rest ih =>
    obtain ⟨read, later⟩ := holds_word held
    simp only [List.length_cons, List.range'_succ, List.map_cons, ih later,
      (readWord_eq_ok_iff.mp read).2]

/-- Stored text is read back word for word. -/
theorem textWords_of_holds {memory : Memory} {words : List UInt16} (terminated : Terminated words)
    {address : Nat} (held : memory.Holds address (wordBytes words)) :
    memory.textWords address = .ok words := by
  have count : (address + 2 * words.length - address) / 2 = words.length := by omega
  simp only [textWords, textEnd_of_holds terminated held, bind, Except.bind, pure, Except.pure,
    count, map_wordAt_of_holds held]

end Memory

end StoryMachine
