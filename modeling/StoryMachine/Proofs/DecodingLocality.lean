import StoryMachine.Proofs.StoryErrors

/-! Decoding is local. An instruction that is decoded lies in memory and is fixed by its own bytes,
whatever memory they stand in. Where decoding fails, memory has ended; that depends on where it ends
and on the bytes from the instruction on, not on those before it. -/

namespace StoryMachine

structure Memory.SameFrom (memory other : Memory) (address : Nat) : Prop where
  size : other.size = memory.size
  bytes : ∀ place, address ≤ place → place < memory.size →
    other.byteAt place = memory.byteAt place

namespace Memory.SameFrom

variable {memory other : Memory} {address place : Nat}

theorem mono (same : memory.SameFrom other address) (above : address ≤ place) :
    memory.SameFrom other place where
  size := same.size
  bytes later after before := same.bytes later (Nat.le_trans above after) before

theorem readByte (same : memory.SameFrom other address) :
    other.readByte address = memory.readByte address := by
  rw [Memory.readByte, Memory.readByte, same.size]
  split
  next inside => rw [same.bytes address (Nat.le_refl _) inside]
  next => rfl

theorem wordAt (same : memory.SameFrom other address) (inside : address + 1 < memory.size) :
    other.wordAt address = memory.wordAt address := by
  rw [wordAt_eq, wordAt_eq, same.bytes address (Nat.le_refl _) (by omega),
    same.bytes (address + 1) (by omega) inside]

theorem readWord (same : memory.SameFrom other address) :
    other.readWord address = memory.readWord address := by
  rw [Memory.readWord, Memory.readWord, same.size]
  split
  next inside => rw [same.wordAt inside]
  next => rfl

theorem textEnd (same : memory.SameFrom other address) :
    other.textEnd address = memory.textEnd address := by
  fun_induction Memory.textEnd memory address with
  | case1 address inside last =>
    rw [Memory.textEnd, same.size, if_pos inside, same.wordAt inside, if_pos last]
  | case2 address inside more ih =>
    rw [Memory.textEnd, same.size, if_pos inside, same.wordAt inside, if_neg more]
    exact ih (same.mono (by omega))
  | case3 address outside => rw [Memory.textEnd, same.size, if_neg outside]

end Memory.SameFrom

theorem Memory.textEnd_le {memory : Memory} {address stop : Nat}
    (ends : memory.textEnd address = .ok stop) : stop ≤ memory.size := by
  fun_induction Memory.textEnd memory address with
  | case1 address inside last =>
    cases ends
    omega
  | case2 address inside more ih => exact ih ends
  | case3 => cases ends

namespace Scan.Sequential

variable {α : Type} {scan : Memory → Scan α}

/-- A scan that moves ends in memory. -/
theorem stop_le (sequential : Sequential scan) {memory : Memory} {address stop : Nat} {value : α}
    (found : scan memory address = .ok (value, stop)) : stop ≤ max address memory.size := by
  induction sequential generalizing address stop with
  | pure | get =>
    cases found
    exact Nat.le_max_left ..
  | nextByte =>
    obtain ⟨read, rfl⟩ := read_eq_ok found
    have inside := (Memory.readByte_eq_ok_iff.mp read).1
    omega
  | nextWord =>
    obtain ⟨read, rfl⟩ := read_eq_ok found
    have inside := (Memory.readWord_eq_ok_iff.mp read).1
    omega
  | skipLiteral =>
    have ends := Memory.textEnd_le (skipLiteral_eq_ok found)
    omega
  | bind here there first later =>
    obtain ⟨value, middle, ran, rest⟩ := bind_eq_ok found
    have := first ran
    have := later value rest
    omega

/-- What a scan comes to, an error included, does not depend on what lies before it. -/
theorem eq_of_sameFrom (sequential : Sequential scan) {memory other : Memory} {address : Nat}
    (same : memory.SameFrom other address) : scan other address = scan memory address := by
  induction sequential generalizing address with
  | pure | get => rfl
  | nextByte => simp only [Scan.nextByte, same.readByte]
  | nextWord => simp only [Scan.nextWord, same.readWord]
  | skipLiteral => simp only [Instruction.skipLiteral, same.textEnd]
  | @bind α β scan next here there first later =>
    have started := first same
    cases ran : scan memory address with
    | error error =>
      rw [ran] at started
      simp only [Bind.bind, StateT.bind, started, ran, Except.bind]
    | ok found =>
      obtain ⟨value, middle⟩ := found
      rw [ran] at started
      -- The second part starts no earlier than the first, so it sees the same bytes.
      have rest := later value (same.mono (here.isLocal ran).1)
      simp only [Bind.bind, StateT.bind, started, ran, Except.bind, rest]

end Scan.Sequential

theorem Instruction.lt_of_scanOpcode {memory : Memory} {version : Version} {address stop : Nat}
    {opcode : Opcode} (found : scanOpcode memory version address = .ok (opcode, stop)) :
    address < stop := by
  obtain ⟨first, middle, read, found⟩ := Scan.bind_eq_ok found
  obtain ⟨-, rfl⟩ := Scan.read_eq_ok read
  split at found
  next =>
    obtain ⟨second, last, read, found⟩ := Scan.bind_eq_ok found
    obtain ⟨-, rfl⟩ := Scan.read_eq_ok read
    cases found
    omega
  next =>
    cases found
    omega

/-- An instruction takes a byte at least. -/
theorem Instruction.lt_of_scan {memory : Memory} {version : Version} {address stop : Nat}
    {instruction : Instruction} (found : scan memory version address = .ok (instruction, stop)) :
    address < stop := by
  obtain ⟨rest, opens, sequential⟩ := scan_eq_opcode_then_rest version
  rw [opens] at found
  obtain ⟨start, first, got, found⟩ := Scan.bind_eq_ok found
  cases got
  obtain ⟨opcode, middle, scanned, found⟩ := Scan.bind_eq_ok found
  have forward := ((sequential address opcode).isLocal found).1
  exact Nat.lt_of_lt_of_le (lt_of_scanOpcode scanned) forward

namespace Story

/-- Decoding is local. A decoded instruction has a byte at least and lies in memory as a whole; in
any memory, longer or shorter, with the same bytes in its place, the same instruction is decoded.
Where there is none, the error is that memory has ended, and it is the same in every memory that
ends there too and is the same up to its end. -/
theorem decodeInstruction_is_local (story : Story) (address : Nat) :
    (∀ instruction, story.decodeInstruction address = .ok instruction →
      address < instruction.next ∧ instruction.next ≤ story.memory.size ∧
      ∀ other : Story, other.version = story.version →
        story.memory.AgreeOn other.memory address instruction.next →
        other.decodeInstruction address = .ok instruction) ∧
    ∀ error, story.decodeInstruction address = .error error →
      error.code = .invalidAddress ∧ error.isRecoverable = true ∧
      ∀ other : Story, other.version = story.version →
        story.memory.SameFrom other.memory address →
        other.decodeInstruction address = .error error := by
  have sequential := Instruction.sequential_scan story.version
  refine ⟨?_, ?_⟩
  · intro instruction decoded
    have found := scan_of_decoded decoded
    have forward := Instruction.lt_of_scan found
    have ends := sequential.stop_le found
    refine ⟨forward, by omega, ?_⟩
    intro other version agree
    exact decodeInstruction_of_agree decoded version agree
  · intro error failed
    have beyond : error.BeyondMemory :=
      (sequential.raises story.memory address).bind (fun _ => raisesOnly_ok _) error failed
    refine ⟨beyond.code_eq, beyond.isRecoverable_eq, ?_⟩
    intro other version same
    rw [← failed, decodeInstruction, decodeInstruction, version, sequential.eq_of_sameFrom same]

/-- A story of version 3 with this code right after its header, which is filled with one byte, and
nothing after the code. -/
def ofCode (filler : UInt8) (code : List UInt8) : Story where
  format := ⟨.v3, 0, 0⟩
  memory := .ofStatic (List.replicate headerSize filler ++ code).toArray (by simp)

def printing : Instruction where
  address := 0x40
  opcode := .ofByte .v3 0xb2
  operands := []
  store := none
  branch := none
  next := 0x45

theorem decodeInstruction_is_local_printing :
    (ofCode 0 [0xb2, 0x12, 0x34, 0x94, 0xa5]).decodeInstruction 0x40 = .ok printing ∧
      (ofCode 1 [0xb2, 0x12, 0x34, 0x94, 0xa5, 0x99]).decodeInstruction 0x40 = .ok printing ∧
      (ofCode 0 [0xb2, 0x12, 0x34, 0x94]).decodeInstruction 0x40 =
        .error (.wordBeyondMemory 0x43 0x43) ∧
      (ofCode 1 [0xb2, 0x12, 0x34, 0x94]).decodeInstruction 0x40 =
        .error (.wordBeyondMemory 0x43 0x43) := by
  have decoded : (ofCode 0 [0xb2, 0x12, 0x34, 0x94, 0xa5]).decodeInstruction 0x40 =
      .ok printing := by
    decide +kernel
  have failed : (ofCode 0 [0xb2, 0x12, 0x34, 0x94]).decodeInstruction 0x40 =
      .error (.wordBeyondMemory 0x43 0x43) := by
    decide +kernel
  refine ⟨decoded, ?_, failed, ?_⟩
  · obtain ⟨-, -, elsewhere⟩ := (decodeInstruction_is_local _ _).1 _ decoded
    refine elsewhere _ rfl fun place after before => ?_
    have inside : place < 0x45 := before
    obtain rfl | rfl | rfl | rfl | rfl : place = 0x40 ∨ place = 0x41 ∨ place = 0x42 ∨
      place = 0x43 ∨ place = 0x44 := by omega
    all_goals rfl
  · obtain ⟨-, -, elsewhere⟩ := (decodeInstruction_is_local _ _).2 _ failed
    refine elsewhere _ rfl ⟨rfl, fun place after before => ?_⟩
    have inside : place < 0x44 := before
    obtain rfl | rfl | rfl | rfl : place = 0x40 ∨ place = 0x41 ∨ place = 0x42 ∨ place = 0x43 := by
      omega
    all_goals rfl

end Story

end StoryMachine
