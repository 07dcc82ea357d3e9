import StoryMachine.Instruction.Decoding
import StoryMachine.Proofs.StoredBytes

/-! What is known of an instruction once it is decoded: which parts it has, and that it depends on
its own bytes alone. -/

namespace StoryMachine

/-- Reading either memory byte by byte from one address up to another gives the same. -/
def Memory.AgreeOn (memory other : Memory) (start stop : Nat) : Prop :=
  ∀ place, start ≤ place → place < stop → other.readByte place = memory.readByte place

theorem Memory.AgreeOn.mono {memory other : Memory} {start stop first last : Nat}
    (agree : memory.AgreeOn other start stop) (above : start ≤ first) (below : last ≤ stop) :
    memory.AgreeOn other first last := by
  intro place after before
  exact agree place (Nat.le_trans above after) (Nat.lt_of_lt_of_le before below)

theorem Memory.AgreeOn.readWord {memory other : Memory} {address : Nat} {value : UInt16}
    (agree : memory.AgreeOn other address (address + 2))
    (read : memory.readWord address = .ok value) :
    other.readWord address = .ok value := by
  obtain ⟨inside, rfl⟩ := readWord_eq_ok_iff.mp read
  have high : memory.readByte address = .ok (memory.byteAt address) :=
    readByte_eq_ok_iff.mpr ⟨by omega, rfl⟩
  have low : memory.readByte (address + 1) = .ok (memory.byteAt (address + 1)) :=
    readByte_eq_ok_iff.mpr ⟨inside, rfl⟩
  apply readWord_of_readByte
  · rw [agree address (Nat.le_refl _) (by omega), high, byteAt]
  · rw [agree (address + 1) (by omega) (by omega), low, byteAt]

namespace Scan

variable {α β : Type}

theorem bind_eq_ok {scan : Scan α} {next : α → Scan β} {address stop : Nat} {result : β}
    (found : (scan >>= next) address = .ok (result, stop)) :
    ∃ value middle, scan address = .ok (value, middle) ∧
      next value middle = .ok (result, stop) := by
  simp only [bind, StateT.bind, Except.bind] at found
  split at found
  next => cases found
  next pair here => exact ⟨pair.1, pair.2, here, found⟩

theorem mapM_length {body : α → Scan β} {items : List α} {address stop : Nat} {values : List β}
    (found : items.mapM body address = .ok (values, stop)) : values.length = items.length := by
  induction items generalizing address values with
  | nil =>
    cases found
    rfl
  | cons item rest ih =>
    rw [List.mapM_cons] at found
    obtain ⟨value, middle, -, found⟩ := bind_eq_ok found
    obtain ⟨others, last, there, found⟩ := bind_eq_ok found
    cases found
    rw [List.length_cons, List.length_cons, ih there]

/-- A part that is scanned only if it is asked for is there exactly then. -/
theorem optional_eq_ok {asked : Bool} {part : Scan α} {next : Option α → Scan β}
    {address stop : Nat} {result : β}
    (found : (if asked then some <$> part >>= next else pure none >>= next) address =
      .ok (result, stop)) :
    ∃ found middle, found.isSome = asked ∧
      (∀ value, found = some value → part address = .ok (value, middle)) ∧
      next found middle = .ok (result, stop) := by
  cases asked with
  | false =>
    refine ⟨none, address, rfl, ?_, found⟩
    rintro value ⟨⟩
  | true =>
    rw [if_pos rfl, ← bind_pure_comp] at found
    obtain ⟨mapped, middle, here, found⟩ := bind_eq_ok found
    obtain ⟨value, last, ran, here⟩ := bind_eq_ok here
    cases here
    refine ⟨some value, _, rfl, ?_, found⟩
    rintro value ⟨⟩
    exact ran

/-- A scan moves forward and depends only on the bytes that it moves over. -/
def Local (scan : Memory → Scan α) : Prop :=
  ∀ ⦃memory : Memory⦄ ⦃address stop : Nat⦄ ⦃value : α⦄, scan memory address = .ok (value, stop) →
    address ≤ stop ∧ ∀ other, memory.AgreeOn other address stop →
      scan other address = .ok (value, stop)

/-- A reading that moves on to a fixed place has gone well and ends there. -/
theorem read_eq_ok {read : Except Error α} {place stop : Nat} {value : α}
    (found : (do let found ← read; return (found, place) : Except Error (α × Nat)) =
      .ok (value, stop)) : read = .ok value ∧ stop = place := by
  cases read with
  | error error => cases found
  | ok result =>
    cases found
    exact ⟨rfl, rfl⟩

theorem skipLiteral_eq_ok {memory : Memory} {address stop : Nat} {value : Unit}
    (found : Instruction.skipLiteral memory address = .ok (value, stop)) :
    memory.textEnd address = .ok stop := by
  cases ends : memory.textEnd address with
  | error error =>
    simp only [Instruction.skipLiteral, ends, bind, Except.bind] at found
    cases found
  | ok last =>
    simp only [Instruction.skipLiteral, ends, bind, Except.bind, pure, Except.pure] at found
    cases found
    rfl

theorem local_textEnd {memory : Memory} {address stop : Nat}
    (ends : memory.textEnd address = .ok stop) :
    address ≤ stop ∧ ∀ other, memory.AgreeOn other address stop →
      other.textEnd address = .ok stop := by
  fun_induction Memory.textEnd memory address with
  | case1 address inside last =>
    cases ends
    refine ⟨by omega, fun other agree => ?_⟩
    obtain ⟨inside', value⟩ :=
      Memory.readWord_eq_ok_iff.mp (agree.readWord (Memory.readWord_eq_ok_iff.mpr ⟨inside, rfl⟩))
    rw [Memory.textEnd, if_pos inside', value, if_pos last]
  | case2 address inside more ih =>
    obtain ⟨forward, later⟩ := ih ends
    refine ⟨by omega, fun other agree => ?_⟩
    have here := agree.mono (Nat.le_refl _) forward
    obtain ⟨inside', value⟩ :=
      Memory.readWord_eq_ok_iff.mp (here.readWord (Memory.readWord_eq_ok_iff.mpr ⟨inside, rfl⟩))
    rw [Memory.textEnd, if_pos inside', value, if_neg more]
    exact later other (agree.mono (by omega) (Nat.le_refl _))
  | case3 => cases ends

/-- Scans made of reading bytes, words and texts one after the other. What holds of these steps and
of their sequences holds of all that decoding does. -/
inductive Sequential : {α : Type} → (Memory → Scan α) → Prop where
  | pure {α : Type} (value : α) : Sequential fun _ => Pure.pure value
  | get : Sequential fun _ => (MonadState.get : Scan Nat)
  | nextByte : Sequential Scan.nextByte
  | nextWord : Sequential Scan.nextWord
  | skipLiteral : Sequential Instruction.skipLiteral
  | bind {α β : Type} {scan : Memory → Scan α} {next : Memory → α → Scan β}
    (here : Sequential scan) (there : ∀ value, Sequential fun memory => next memory value) :
    Sequential fun memory => scan memory >>= next memory

namespace Sequential

theorem map {scan : Memory → Scan α} (here : Sequential scan) (change : α → β) :
    Sequential fun memory => change <$> scan memory := by
  simp only [← bind_pure_comp]
  exact here.bind fun value => .pure (change value)

theorem ite {condition : Prop} [Decidable condition] {first second : Memory → Scan α}
    (yes : Sequential first) (no : Sequential second) :
    Sequential fun memory => if condition then first memory else second memory := by
  split
  · exact yes
  · exact no

/-- What follows a conditional scan follows either way. -/
theorem ite_bind {condition : Prop} [Decidable condition] {first second : Memory → Scan α}
    {next : Memory → α → Scan β} (yes : Sequential first) (no : Sequential second)
    (there : ∀ value, Sequential fun memory => next memory value) :
    Sequential fun memory =>
      if condition then first memory >>= next memory else second memory >>= next memory :=
  (yes.bind there).ite (no.bind there)

theorem mapM {body : Memory → α → Scan β} (items : List α)
    (here : ∀ item, Sequential fun memory => body memory item) :
    Sequential fun memory => items.mapM (body memory) := by
  induction items with
  | nil => exact .pure []
  | cons item rest ih =>
    simp only [List.mapM_cons]
    exact (here item).bind fun value => ih.bind fun values => .pure (value :: values)

theorem isLocal {scan : Memory → Scan α} (sequential : Sequential scan) : Local scan := by
  induction sequential with
  | pure | get =>
    intro memory address stop found done
    cases done
    exact ⟨Nat.le_refl _, fun _ _ => rfl⟩
  | nextByte =>
    intro memory address stop value found
    obtain ⟨read, rfl⟩ := read_eq_ok found
    refine ⟨by omega, fun other agree => ?_⟩
    have same := (agree address (Nat.le_refl _) (by omega)).trans read
    simp only [Scan.nextByte, same, Bind.bind, Except.bind, Pure.pure, Except.pure]
  | nextWord =>
    intro memory address stop value found
    obtain ⟨read, rfl⟩ := read_eq_ok found
    refine ⟨by omega, fun other agree => ?_⟩
    simp only [Scan.nextWord, agree.readWord read, Bind.bind, Except.bind, Pure.pure, Except.pure]
  | skipLiteral =>
    intro memory address stop value found
    obtain ⟨forward, same⟩ := local_textEnd (skipLiteral_eq_ok found)
    refine ⟨forward, fun other agree => ?_⟩
    simp only [Instruction.skipLiteral, same other agree, Bind.bind, Except.bind, Pure.pure,
      Except.pure]
  | bind here there first later =>
    intro memory address stop result found
    obtain ⟨value, middle, ran, rest⟩ := bind_eq_ok found
    obtain ⟨forward, same⟩ := first ran
    obtain ⟨further, same'⟩ := later value rest
    refine ⟨Nat.le_trans forward further, fun other agree => ?_⟩
    have ran' := same other (agree.mono (Nat.le_refl _) further)
    have rest' := same' other (agree.mono forward (Nat.le_refl _))
    simp only [Bind.bind, StateT.bind, ran', Except.bind, rest']

end Sequential

end Scan

inductive Opcode.Scanned (version : Version) : Opcode → Prop where
  | plain (byte : UInt8) : Scanned version (.ofByte version byte)
  | extended (late : .v5 ≤ version) (byte : UInt8) : Scanned version (.ofExtendedByte version byte)

/-- Which operations the opcodes of one byte do not mean, and which only those of one operand do. -/
theorem Operation.ofNumber?_cases (version : Version) (arity : Arity) (number : Fin 32) :
    (ofNumber? version arity number = some .call1s ∨ ofNumber? version arity number = some .call1n →
      arity = .one) ∧
    ofNumber? version arity number ≠ some .saveExt ∧
    ofNumber? version arity number ≠ some .saveUndo := by
  revert number
  cases version <;> cases arity <;> decide +kernel

theorem Operation.ofExtended?_cases (number : Nat) :
    ofExtended? number ≠ some .call1s ∧ ofExtended? number ≠ some .call1n := by
  unfold ofExtended?
  split <;> simp

namespace Opcode

/-- An opcode of one byte has a small number, and the short form if it has one operand. -/
theorem ofByte_number (version : Version) (byte : UInt8) :
    (ofByte version byte).operation? = Operation.ofNumber? version (ofByte version byte).arity
        (ofByte version byte).number.toNat ∧
      (ofByte version byte).number.toNat < 32 ∧
      ((ofByte version byte).arity = .one → (ofByte version byte).form = .short) := by
  unfold ofByte
  split
  next =>
    refine ⟨rfl, ?_, ?_⟩
    · simp; omega
    · dsimp only
      split <;> nofun
  next =>
    split
    next => exact ⟨rfl, by simp; omega, fun _ => rfl⟩
    next => exact ⟨rfl, by simp; omega, nofun⟩

namespace Scanned

variable {version : Version} {opcode : Opcode}

theorem version_eq (scanned : opcode.Scanned version) : opcode.version = version := by
  cases scanned with
  | extended => rfl
  | plain byte =>
    rw [ofByte]
    split
    · rfl
    · split <;> rfl

/-- The calls without arguments have opcodes of the short form. -/
theorem short (scanned : opcode.Scanned version)
    (means : opcode.operation? = some .call1s ∨ opcode.operation? = some .call1n) :
    opcode.form = .short := by
  cases scanned with
  | extended late byte =>
    obtain ⟨first, second⟩ := Operation.ofExtended?_cases byte.toNat
    exact (means.elim first second).elim
  | plain byte =>
    obtain ⟨known, small, short⟩ := ofByte_number version byte
    rw [known] at means
    exact short ((Operation.ofNumber?_cases version _ ⟨_, small⟩).1 means)

/-- Only the extended opcodes, which came with version 5, save for undo or take operands to save. -/
theorem late (scanned : opcode.Scanned version)
    (means : opcode.operation? = some .saveExt ∨ opcode.operation? = some .saveUndo) :
    .v5 ≤ version := by
  cases scanned with
  | extended late => exact late
  | plain byte =>
    obtain ⟨known, small, -⟩ := ofByte_number version byte
    obtain ⟨-, first, second⟩ := Operation.ofNumber?_cases version (ofByte version byte).arity
      ⟨_, small⟩
    rw [known] at means
    exact (means.elim first second).elim

end Scanned

end Opcode

structure Instruction.Decoded (version : Version) (address : Nat) (instruction : Instruction) :
    Prop where
  address : instruction.address = address
  opcode : instruction.opcode.Scanned version
  short : instruction.opcode.form = .short → instruction.operands.length ≤ 1
  stores : instruction.store.isSome = instruction.opcode.stores
  branches : instruction.branch.isSome = instruction.opcode.branches

namespace Instruction
open Scan

theorem sequential_scanOpcode (version : Version) : Sequential (scanOpcode · version) := by
  refine Sequential.nextByte.bind fun first => ?_
  exact (Sequential.nextByte.bind fun second => .pure _).ite (.pure _)

theorem sequential_scanKinds (opcode : Opcode) : Sequential (scanKinds · opcode) := by
  unfold scanKinds
  cases opcode.form with
  | short | long => exact .pure _
  | var | extended =>
    refine Sequential.nextByte.bind fun first => ?_
    exact (Sequential.nextByte.bind fun second => .pure _).ite (.pure _)

theorem sequential_scanOperand (kind : OperandKind) : Sequential (scanOperand · kind) := by
  unfold scanOperand
  cases kind with
  | largeConstant => exact Sequential.nextWord.bind fun value => .pure _
  | smallConstant | var => exact Sequential.nextByte.bind fun value => .pure _

theorem sequential_scanStore : Sequential scanStore :=
  Sequential.get.bind fun _ => Sequential.nextByte.bind fun _ => .pure _

theorem sequential_scanBranch : Sequential scanBranch := by
  refine Sequential.get.bind fun address => Sequential.nextByte.bind fun first => ?_
  refine Sequential.bind ?_ fun offset => Sequential.get.bind fun next => .pure _
  exact (Sequential.pure _).ite (Sequential.nextByte.bind fun second => .pure _)

/-- An instruction starts with its opcode, and the rest is scanned after that. -/
theorem scan_eq_opcode_then_rest (version : Version) :
    ∃ rest : Nat → Opcode → Memory → Scan Instruction,
      (∀ memory, scan memory version = do
        let address ← get
        let opcode ← scanOpcode memory version
        rest address opcode memory) ∧
      ∀ address opcode, Sequential (rest address opcode) := by
  refine ⟨_, fun memory => rfl, fun address opcode => ?_⟩
  refine (sequential_scanKinds opcode).bind fun kinds => ?_
  refine (Sequential.mapM kinds sequential_scanOperand).bind fun operands => ?_
  refine Sequential.ite_bind (sequential_scanStore.map some) (.pure none) fun store => ?_
  refine Sequential.ite_bind (sequential_scanBranch.map some) (.pure none) fun branch => ?_
  have ended : Sequential fun _ => (do
      let next ← get
      return { address, opcode, operands, store, branch, next } : Scan Instruction) :=
    Sequential.get.bind fun next => .pure _
  exact (Sequential.skipLiteral.bind fun _ => ended).ite ended

theorem sequential_scan (version : Version) : Sequential (scan · version) := by
  obtain ⟨rest, opens, sequential⟩ := scan_eq_opcode_then_rest version
  simp only [opens]
  refine Sequential.get.bind fun address => ?_
  exact (sequential_scanOpcode version).bind fun opcode => sequential address opcode

theorem scanOpcode_eq_ok {memory : Memory} {version : Version} {address stop : Nat}
    {opcode : Opcode} (found : scanOpcode memory version address = .ok (opcode, stop)) :
    opcode.Scanned version := by
  obtain ⟨first, middle, -, found⟩ := bind_eq_ok found
  split at found
  next mark =>
    obtain ⟨second, last, -, found⟩ := bind_eq_ok found
    cases found
    exact .extended mark.2 second
  next =>
    cases found
    exact .plain first

theorem scanKinds_short {memory : Memory} {opcode : Opcode} {address stop : Nat}
    {kinds : List OperandKind} (found : scanKinds memory opcode address = .ok (kinds, stop))
    (short : opcode.form = .short) : kinds.length ≤ 1 := by
  rw [scanKinds] at found
  simp only [short] at found
  cases found
  cases OperandKind.ofBits? (opcode.byte.toNat / 16) <;> simp

theorem scan_eq_ok {memory : Memory} {version : Version} {address stop : Nat}
    {instruction : Instruction}
    (found : scan memory version address = .ok (instruction, stop)) :
    instruction.Decoded version address ∧ instruction.next = stop := by
  obtain ⟨start, first, get, found⟩ := bind_eq_ok found
  cases get
  obtain ⟨opcode, second, opcodeFound, found⟩ := bind_eq_ok found
  obtain ⟨kinds, third, kindsFound, found⟩ := bind_eq_ok found
  obtain ⟨operands, fourth, operandsFound, found⟩ := bind_eq_ok found
  obtain ⟨store, fifth, stores, -, found⟩ := optional_eq_ok found
  obtain ⟨branch, sixth, branches, -, found⟩ := optional_eq_ok found
  have parts (last : Nat) (ended : (do
      let next ← get
      return { address, opcode, operands, store, branch, next } : Scan Instruction) last =
        .ok (instruction, stop)) :
      instruction.Decoded version address ∧ instruction.next = stop := by
    cases ended
    exact ⟨⟨rfl, scanOpcode_eq_ok opcodeFound, fun short =>
      Nat.le_trans (Nat.le_of_eq (mapM_length operandsFound)) (scanKinds_short kindsFound short),
      stores, branches⟩, rfl⟩
  dsimp only at found
  split at found
  next =>
    obtain ⟨-, seventh, -, found⟩ := bind_eq_ok found
    exact parts seventh found
  next => exact parts sixth found

theorem ofByte_length (byte : UInt8) : (OperandKind.ofByte byte).length ≤ 4 := by
  apply Nat.le_trans (List.length_filterMap_le _ _)
  exact (List.takeWhile_sublist _).length_le

/-- An instruction has eight operands at most. -/
theorem scanKinds_length {memory : Memory} {opcode : Opcode} {address stop : Nat}
    {kinds : List OperandKind} (found : scanKinds memory opcode address = .ok (kinds, stop)) :
    kinds.length ≤ 8 := by
  have counted (first : UInt8) (middle : Nat) (counted : (if opcode.hasSecondKinds then do
      let more := OperandKind.ofByte (← nextByte memory)
      return if (OperandKind.ofByte first).length = 4 then OperandKind.ofByte first ++ more
        else OperandKind.ofByte first
      else return OperandKind.ofByte first) middle = .ok (kinds, stop)) : kinds.length ≤ 8 := by
    have few := ofByte_length first
    split at counted
    next =>
      obtain ⟨second, last, -, counted⟩ := bind_eq_ok counted
      have more := ofByte_length second
      cases counted
      split
      · rw [List.length_append]
        omega
      · omega
    next =>
      cases counted
      omega
  cases form : opcode.form with
  | short => exact Nat.le_trans (scanKinds_short found form) (by decide)
  | long =>
    rw [scanKinds, form] at found
    cases found
    simp
  | var | extended =>
    rw [scanKinds, form] at found
    obtain ⟨first, middle, -, found⟩ := bind_eq_ok found
    exact counted first middle found

theorem scan_operands_length {memory : Memory} {version : Version} {address stop : Nat}
    {instruction : Instruction}
    (found : scan memory version address = .ok (instruction, stop)) :
    instruction.operands.length ≤ 8 := by
  obtain ⟨start, first, get, found⟩ := bind_eq_ok found
  obtain ⟨opcode, second, -, found⟩ := bind_eq_ok found
  obtain ⟨kinds, third, kindsFound, found⟩ := bind_eq_ok found
  obtain ⟨operands, fourth, operandsFound, found⟩ := bind_eq_ok found
  obtain ⟨store, fifth, -, -, found⟩ := optional_eq_ok found
  obtain ⟨branch, sixth, -, -, found⟩ := optional_eq_ok found
  have few : operands.length ≤ 8 := mapM_length operandsFound ▸ scanKinds_length kindsFound
  dsimp only at found
  split at found
  next =>
    obtain ⟨-, seventh, -, found⟩ := bind_eq_ok found
    cases found
    exact few
  next =>
    cases found
    exact few

end Instruction

namespace Story

variable {story : Story} {address : Nat} {instruction : Instruction}

theorem scan_of_decoded (decoded : story.decodeInstruction address = .ok instruction) :
    Instruction.scan story.memory story.version address = .ok (instruction, instruction.next) := by
  rw [decodeInstruction] at decoded
  cases found : Instruction.scan story.memory story.version address with
  | error error =>
    simp only [found, bind, Except.bind] at decoded
    cases decoded
  | ok result =>
    simp only [found, bind, Except.bind, pure, Except.pure] at decoded
    cases decoded
    rw [(Instruction.scan_eq_ok found).2]

theorem decoded_of_decodeInstruction (decoded : story.decodeInstruction address = .ok instruction) :
    instruction.Decoded story.version address :=
  (Instruction.scan_eq_ok (scan_of_decoded decoded)).1

/-- Where the bytes of an instruction are the same, the instruction is. -/
theorem decodeInstruction_of_agree {other : Story}
    (decoded : story.decodeInstruction address = .ok instruction)
    (version : other.version = story.version)
    (agree : story.memory.AgreeOn other.memory address instruction.next) :
    other.decodeInstruction address = .ok instruction := by
  have found :=
    ((Instruction.sequential_scan story.version).isLocal (scan_of_decoded decoded)).2 other.memory
      agree
  rw [decodeInstruction, version]
  simp only [found, bind, Except.bind, pure, Except.pure]

end Story

end StoryMachine
