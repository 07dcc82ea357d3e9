import StoryMachine.Proofs.InstructionLayout

/-! The decoder undoes the layout of instructions. It reads part after part, and each part ends
where its own bytes end, so what the parts are can be read off one by one. -/

namespace StoryMachine

/-- At an address that holds these bytes, a scan reads all of them and finds this value. -/
def Scan.Finds (memory : Memory) (scan : Scan α) (address : Nat) (bytes : List UInt8) (value : α) :
    Prop :=
  memory.Holds address bytes → scan address = .ok (value, address + bytes.length)

namespace Scan

variable {memory : Memory} {address : Nat}

theorem finds_pure (value : α) : Finds memory (pure value) address [] value := by
  intro _
  rfl

theorem finds_pure_of_eq {found value : α} (same : found = value) :
    Finds memory (pure found) address [] value := by
  rw [← same]
  exact finds_pure found

theorem finds_get : Finds memory (get : Scan Nat) address [] address := by
  intro _
  rfl

theorem finds_nextByte (byte : UInt8) : Finds memory (nextByte memory) address [byte] byte := by
  intro held
  simp only [nextByte, (Memory.holds_cons.mp held).1, bind, Except.bind, pure, Except.pure]
  rfl

theorem finds_nextWord (value : UInt16) :
    Finds memory (nextWord memory) address [highByte value, lowByte value] value := by
  intro held
  simp only [nextWord, (Memory.holds_word held).1, bind, Except.bind, pure, Except.pure]
  rfl

theorem Finds.bind {scan : Scan α} {next : α → Scan β} {first second : List UInt8} {value : α}
    {result : β} (here : Finds memory scan address first value)
    (there : Finds memory (next value) (address + first.length) second result) :
    Finds memory (scan >>= next) address (first ++ second) result := by
  intro held
  obtain ⟨heldFirst, heldSecond⟩ := Memory.holds_append.mp held
  have run : (scan >>= next) address = next value (address + first.length) := by
    simp only [Bind.bind, StateT.bind, here heldFirst, Except.bind]
  rw [run, there heldSecond, List.length_append, Nat.add_assoc]

theorem Finds.map {scan : Scan α} {bytes : List UInt8} {value : α} (f : α → β)
    (here : Finds memory scan address bytes value) :
    Finds memory (f <$> scan) address bytes (f value) := by
  intro held
  simp only [Functor.map, StateT.map, here held, Bind.bind, Except.bind, pure, Except.pure]

theorem Finds.bind_ite {asked : Bool} {scan other : Scan α} {next : α → Scan β}
    {first second : List UInt8} {value : α} {result : β}
    (here : Finds memory (if asked then scan else other) address first value)
    (there : Finds memory (next value) (address + first.length) second result) :
    Finds memory (if asked then scan >>= next else other >>= next) address (first ++ second)
      result := by
  have both := here.bind there
  cases asked <;> exact both

/-- A part that stands in memory just when it is asked for. -/
theorem finds_part {part : Option γ} {asked : Bool} {scan : Scan α} {bytes : γ → List UInt8}
    {value : γ → α} (present : part.isSome ↔ asked = true)
    (found : ∀ given, part = some given → Finds memory scan address (bytes given) (value given)) :
    Finds memory (if asked then some <$> scan else pure none) address (part.elim [] bytes)
      (part.map value) := by
  cases part with
  | none =>
    rw [if_neg fun wanted => nomatch present.mpr wanted]
    exact finds_pure none
  | some given =>
    rw [if_pos (present.mp rfl)]
    exact (found given rfl).map some

end Scan

namespace Argument
open Scan Instruction

variable {memory : Memory} {address : Nat}

theorem finds_operand (argument : Argument) :
    Finds memory (scanOperand memory argument.kind) address argument.bytes argument.operand := by
  cases argument with
  | large value => exact (finds_nextWord value).map (Operand.mk .largeConstant)
  | small value => exact (finds_nextByte value).map (Operand.mk .smallConstant ·.toUInt16)
  | var number => exact (finds_nextByte number).map (Operand.mk .var ·.toUInt16)

theorem finds_operands (arguments : List Argument) :
    Finds memory ((arguments.map kind).mapM (scanOperand memory)) address
      (arguments.flatMap bytes) (arguments.map operand) := by
  induction arguments generalizing address with
  | nil => exact finds_pure []
  | cons argument rest ih =>
    rw [List.map_cons, List.mapM_cons, List.flatMap_cons]
    apply (finds_operand argument).bind
    rw [← List.append_nil (rest.flatMap bytes)]
    exact ih.bind (finds_pure _)

theorem kindBits_some (argument : Argument) : kindBits (some argument) < 3 := by
  cases argument <;> simp [kindBits]

theorem kindBits_lt (argument : Option Argument) : kindBits argument < 4 := by
  cases argument with
  | none => decide
  | some argument => exact Nat.lt_succ_of_lt (kindBits_some argument)

theorem ofBits?_kindBits (argument : Option Argument) :
    OperandKind.ofBits? (kindBits argument) = argument.map kind := by
  rcases argument with _ | argument
  · rfl
  · cases argument <;> rfl

private theorem ofBits?_mod {bits other : Nat} (same : bits % 4 = other % 4) :
    OperandKind.ofBits? bits = OperandKind.ofBits? other := by
  simp only [OperandKind.ofBits?, same]

/-- A byte of operand kinds announces the operands that it was made for. -/
theorem ofByte_kindByte (arguments : List Argument) (few : arguments.length ≤ 4) :
    OperandKind.ofByte (kindByte arguments) = arguments.map kind := by
  have first := kindBits_lt arguments[0]?
  have second := kindBits_lt arguments[1]?
  have third := kindBits_lt arguments[2]?
  have fourth := kindBits_lt arguments[3]?
  have value : (kindByte arguments).toNat = 64 * kindBits arguments[0]? +
      16 * kindBits arguments[1]? + 4 * kindBits arguments[2]? + kindBits arguments[3]? := by
    rw [kindByte, UInt8.toNat_ofNat']
    omega
  have places : [(kindByte arguments).toNat / 64, (kindByte arguments).toNat / 16,
      (kindByte arguments).toNat / 4, (kindByte arguments).toNat].map OperandKind.ofBits? =
      [arguments[0]?, arguments[1]?, arguments[2]?, arguments[3]?].map (Option.map kind) := by
    simp only [List.map_cons, List.map_nil, ← ofBits?_kindBits, List.cons.injEq, and_true]
    refine ⟨ofBits?_mod ?_, ofBits?_mod ?_, ofBits?_mod ?_, ofBits?_mod ?_⟩ <;> omega
  rw [OperandKind.ofByte, places]
  match arguments, few with
  | [], _ | [_], _ | [_, _], _ | [_, _, _], _ | [_, _, _, _], _ => rfl

end Argument

namespace Head
open Scan Instruction

variable {memory : Memory} {address : Nat} {version : Version}

theorem shortByte_fields (bits : Nat) (few : bits < 4) (number : Fin 16) :
    ¬ 0xc0 ≤ shortByte bits number ∧ 0x80 ≤ shortByte bits number ∧
      (0xb0 ≤ shortByte bits number ↔ bits = 3) ∧
      shortByte bits number % 16 = UInt8.ofNat number ∧
      (shortByte bits number).toNat / 16 % 4 = bits % 4 ∧
      (shortByte bits number = Opcode.extendedMark → bits = 3 ∧ number = 0x0e) := by
  revert number bits
  decide +kernel

theorem longByte_fields (first second : Bool) (number : Fin 32) :
    ¬ 0xc0 ≤ longByte first second number ∧ ¬ 0x80 ≤ longByte first second number ∧
      longByte first second number ≠ Opcode.extendedMark ∧
      longByte first second number % 32 = UInt8.ofNat number ∧
      OperandKind.ofBit ((longByte first second number).toNat / 64) =
        (if first then .var else .smallConstant) ∧
      OperandKind.ofBit ((longByte first second number).toNat / 32) =
        (if second then .var else .smallConstant) := by
  revert number second first
  decide +kernel

theorem varByte_fields (any : Bool) (number : Fin 32) :
    0xc0 ≤ varByte any number ∧ (0xe0 ≤ varByte any number ↔ any = true) ∧
      varByte any number ≠ Opcode.extendedMark ∧
      varByte any number % 32 = UInt8.ofNat number ∧
      (varByte any number = 0xec ∨ varByte any number = 0xfa ↔
        any = true ∧ (number = 0x0c ∨ number = 0x1a)) := by
  revert number any
  decide +kernel

/-- The top bits of an opcode byte tell the forms apart. -/
theorem ofByte_opcodeByte (version : Version) {head : Head}
    (plain : ∀ number arguments, head ≠ .extended number arguments) :
    Opcode.ofByte version head.opcodeByte = head.opcode version := by
  cases head with
  | zero number =>
    obtain ⟨low, high, zero, same, -⟩ := shortByte_fields 3 (by decide) number
    simp [Opcode.ofByte, opcode, opcodeByte, low, high, zero, same]
  | one number argument =>
    have bits := Argument.kindBits_some argument
    obtain ⟨low, high, zero, same, -⟩ := shortByte_fields _ (Nat.lt_succ_of_lt bits) number
    simp [Opcode.ofByte, opcode, opcodeByte, low, high, zero, same, Nat.ne_of_lt bits]
  | long number first second =>
    obtain ⟨low, high, -, same, -⟩ := longByte_fields first.isRight second.isRight number
    simp [Opcode.ofByte, opcode, opcodeByte, low, high, same]
  | two number arguments =>
    obtain ⟨high, many, -, same, -⟩ := varByte_fields false number
    simp [Opcode.ofByte, opcode, opcodeByte, high, many, same]
  | any number arguments =>
    obtain ⟨high, many, -, same, -⟩ := varByte_fields true number
    simp [Opcode.ofByte, opcode, opcodeByte, high, many, same]
  | extended number arguments => exact absurd rfl (plain number arguments)

theorem opcodeByte_ne_mark {head : Head} (fits : head.Fits version)
    (plain : ∀ number arguments, head ≠ .extended number arguments) :
    ¬ (head.opcodeByte = Opcode.extendedMark ∧ .v5 ≤ version) := by
  rintro ⟨mark, late⟩
  cases head with
  | zero number =>
    obtain ⟨-, -, -, -, -, only⟩ := shortByte_fields 3 (by decide) number
    exact Nat.not_lt.mpr late (fits (only mark).2)
  | one number argument =>
    have bits := Argument.kindBits_some argument
    obtain ⟨-, -, -, -, -, only⟩ := shortByte_fields _ (Nat.lt_succ_of_lt bits) number
    exact Nat.ne_of_lt bits (only mark).1
  | long number first second =>
    exact (longByte_fields first.isRight second.isRight number).2.2.1 mark
  | two number arguments => exact (varByte_fields false number).2.2.1 mark
  | any number arguments => exact (varByte_fields true number).2.2.1 mark
  | extended number arguments => exact plain number arguments rfl

private theorem finds_plainOpcode {head : Head} (fits : head.Fits version)
    (plain : ∀ number arguments, head ≠ .extended number arguments) :
    Finds memory (scanOpcode memory version) address [head.opcodeByte] (head.opcode version) := by
  rw [← ofByte_opcodeByte version plain, ← List.append_nil [head.opcodeByte]]
  apply (finds_nextByte head.opcodeByte).bind
  rw [if_neg (opcodeByte_ne_mark fits plain)]
  exact finds_pure _

theorem finds_opcode {head : Head} (fits : head.Fits version) :
    Finds memory (scanOpcode memory version) address head.opcodeBytes (head.opcode version) := by
  cases head with
  | zero | one | long | two | any => exact finds_plainOpcode fits nofun
  | extended number arguments =>
    apply (finds_nextByte Opcode.extendedMark).bind
    rw [if_pos ⟨rfl, fits.1⟩]
    exact (finds_nextByte number).map (Opcode.ofExtendedByte version)

theorem finds_kindByte {opcode : Opcode} (many : opcode.form = .var ∨ opcode.form = .extended)
    (single : opcode.hasSecondKinds = false) {arguments : List Argument}
    (few : arguments.length ≤ 4) :
    Finds memory (scanKinds memory opcode) address [Argument.kindByte arguments]
      (arguments.map Argument.kind) := by
  rw [← Argument.ofByte_kindByte arguments few]
  rcases many with many | many
  all_goals
    simp only [scanKinds, many, single]
    exact (finds_nextByte _).map OperandKind.ofByte

theorem finds_kindBytes {opcode : Opcode} (many : opcode.form = .var)
    (wide : opcode.hasSecondKinds = true) {arguments : List Argument}
    (few : arguments.length ≤ 8) :
    Finds memory (scanKinds memory opcode) address
      [Argument.kindByte (arguments.take 4), Argument.kindByte (arguments.drop 4)]
      (arguments.map Argument.kind) := by
  have kinds : arguments.map Argument.kind =
      if ((arguments.take 4).map Argument.kind).length = 4 then
        (arguments.take 4).map Argument.kind ++ (arguments.drop 4).map Argument.kind
      else (arguments.take 4).map Argument.kind := by
    split
    · rw [← List.map_append, List.take_append_drop]
    · rename_i short
      rw [List.length_map, List.length_take] at short
      rw [List.take_of_length_le (by omega)]
  rw [kinds, ← Argument.ofByte_kindByte (arguments.take 4) (List.length_take_le 4 arguments),
    ← Argument.ofByte_kindByte (arguments.drop 4) (by rw [List.length_drop]; omega)]
  simp only [scanKinds, many, wide]
  apply (finds_nextByte _).bind
  rw [if_pos trivial, bind_pure_comp]
  exact (finds_nextByte _).map _

theorem hasSecondKinds_opcode (version : Version) (head : Head) :
    (head.opcode version).hasSecondKinds = head.isWide := by
  cases head with
  | two number arguments =>
    simp [Opcode.hasSecondKinds, opcode, opcodeByte, isWide, (varByte_fields false number).2.2.2.2]
  | any number arguments =>
    simp [Opcode.hasSecondKinds, opcode, opcodeByte, isWide, (varByte_fields true number).2.2.2.2]
  | zero | one | long | extended => simp [Opcode.hasSecondKinds, opcode, isWide]

theorem finds_shortKind {opcode : Opcode} {number : Fin 16} (argument : Option Argument)
    (short : opcode.form = .short)
    (byte : opcode.byte = shortByte (Argument.kindBits argument) number) :
    Finds memory (scanKinds memory opcode) address [] (argument.map Argument.kind).toList := by
  obtain ⟨-, -, -, -, same, -⟩ := shortByte_fields _ (Argument.kindBits_lt argument) number
  rw [← Argument.ofBits?_kindBits, ← Argument.ofBits?_mod same, ← byte]
  simp only [scanKinds, short]
  exact finds_pure _

theorem kind_shortArgument (argument : UInt8 ⊕ UInt8) :
    (shortArgument argument).kind = if argument.isRight then .var else .smallConstant := by
  cases argument <;> rfl

theorem finds_kinds {head : Head} (fits : head.Fits version) :
    Finds memory (scanKinds memory (head.opcode version)) address head.kindBytes
      (head.arguments.map Argument.kind) := by
  have wide := hasSecondKinds_opcode version head
  cases head with
  | zero number => exact finds_shortKind none rfl rfl
  | one number argument => exact finds_shortKind (some argument) rfl rfl
  | long number first second =>
    obtain ⟨-, -, -, -, left, right⟩ := longByte_fields first.isRight second.isRight number
    simp only [arguments, List.map_cons, List.map_nil, kind_shortArgument, ← left, ← right]
    exact finds_pure _
  | two number arguments => exact finds_kindByte (.inl rfl) wide fits
  | any number arguments =>
    simp only [Fits] at fits
    simp only [kindBytes, isWide, decide_eq_true_eq] at wide ⊢
    split
    next calls =>
      rw [if_pos calls] at fits
      exact finds_kindBytes rfl (wide.trans (decide_eq_true calls)) fits
    next others =>
      rw [if_neg others] at fits
      exact finds_kindByte (.inl rfl) (wide.trans (decide_eq_false others)) fits
  | extended number arguments => exact finds_kindByte (.inr rfl) wide fits.2

theorem ofExtended?_unknown {number : Nat} (unknown : 0x1e ≤ number) :
    Operation.ofExtended? number = none := by
  unfold Operation.ofExtended?
  split
  all_goals first | rfl | omega

private theorem forall_extended {p : UInt8 → Prop}
    (known : ∀ value : Fin 0x1e, p (UInt8.ofNat value))
    (unknown : ∀ byte : UInt8, 0x1e ≤ byte.toNat → p byte) (byte : UInt8) : p byte := by
  rcases Nat.lt_or_ge byte.toNat 0x1e with small | large
  · simpa using known ⟨byte.toNat, small⟩
  · exact unknown byte large

/-- Which opcodes store a result depends on their numbers and the version only. -/
theorem stores_opcode (version : Version) (head : Head) :
    (head.opcode version).stores = true ↔ head.Stores version := by
  cases head with
  | zero number | one number argument | long number first second | two number arguments
  | any number arguments =>
    simp only [Opcode.stores, Opcode.operation?, opcode, Stores]
    revert number
    cases version <;> decide +kernel
  | extended number arguments =>
    simp only [Opcode.stores, Opcode.operation?, opcode, Stores]
    revert number
    apply forall_extended
    · cases version <;> decide +kernel
    · intro number unknown
      simp [ofExtended?_unknown unknown, UInt8.le_iff_toNat_le, ← UInt8.toNat_inj]
      omega

theorem branches_opcode (version : Version) (head : Head) :
    (head.opcode version).branches = true ↔ head.Branches version := by
  cases head with
  | zero number | one number argument | long number first second | two number arguments
  | any number arguments =>
    simp only [Opcode.branches, Opcode.operation?, opcode, Branches]
    revert number
    cases version <;> decide +kernel
  | extended number arguments =>
    simp only [Opcode.branches, Opcode.operation?, opcode, Branches]
    revert number
    apply forall_extended
    · cases version <;> decide +kernel
    · intro number unknown
      simp [ofExtended?_unknown unknown, ← UInt8.toNat_inj]
      omega

theorem hasLiteral_opcode (version : Version) (head : Head) :
    (head.opcode version).hasLiteral = true ↔ head.Prints := by
  cases head with
  | zero number | one number argument | long number first second | two number arguments
  | any number arguments =>
    simp only [Opcode.hasLiteral, Opcode.operation?, opcode, Prints]
    revert number
    cases version <;> decide +kernel
  | extended number arguments =>
    simp only [Opcode.hasLiteral, Opcode.operation?, opcode, Prints]
    revert number
    apply forall_extended
    · decide +kernel
    · intro number unknown
      simp [ofExtended?_unknown unknown]

end Head

namespace Offset
open Scan Instruction

variable {memory : Memory} {address : Nat}

private theorem short_fields (condition : Bool) (value : Fin 64) :
    let byte := UInt8.ofNat ((if condition then 0x80 else 0) + 0x40 + value.val)
    byte.toNat / 64 % 2 = 1 ∧ byte.toNat % 64 = value ∧ (0x80 ≤ byte) = (condition = true) := by
  cases condition <;> revert value <;> decide +kernel

private theorem long_fields (condition : Bool) (value : BitVec 14) :
    let byte := UInt8.ofNat ((if condition then 0x80 else 0) + value.toNat / 256)
    byte.toNat / 64 % 2 = 0 ∧ (0x80 ≤ byte) = (condition = true) ∧
      longOffset (256 * byte.toNat + (UInt8.ofNat value.toNat).toNat) = value.toInt := by
  have inside : value.toNat < 16384 := value.isLt
  have sign := BitVec.toInt_eq_toNat_cond value
  cases condition
  all_goals
    simp only [longOffset, UInt8.le_iff_toNat_le, UInt8.toNat_ofNat', eq_iff_iff, sign]
    simp
    omega

/-- After its bytes, a branch is known from the sign of the first one and the offset. -/
private theorem finds_target {first : UInt8} {condition : Bool} (start : Nat) (offset : Offset)
    (high : (0x80 ≤ first) = (condition = true)) :
    Finds memory
      (do
        let next ← get
        let target := if offset.toInt = 0 then 0 else if offset.toInt = 1 then 1
          else relativeAddress next offset.toInt
        return (⟨start, 0x80 ≤ first, target⟩ : Branch))
      address [] ⟨start, condition, offset.target address⟩ := by
  have known : decide (0x80 ≤ first) = condition := by simp [high]
  rw [← known]
  exact finds_get.bind (finds_pure _)

theorem finds_branch (condition : Bool) (offset : Offset) :
    Finds memory (scanBranch memory) address (offset.bytes condition)
      ⟨address, condition, offset.target (address + (offset.bytes condition).length)⟩ := by
  apply finds_get.bind
  cases offset with
  | short value =>
    obtain ⟨form, low, high⟩ := short_fields condition value
    apply (finds_nextByte _).bind
    simp only [scanOffset, form, if_true, low, pure_bind]
    exact finds_target _ (.short value) high
  | long value =>
    obtain ⟨form, high, whole⟩ := long_fields condition value
    apply (finds_nextByte _).bind
    simp only [scanOffset, form, Nat.zero_ne_one, if_false, bind_assoc, pure_bind]
    apply (finds_nextByte _).bind
    simp only [whole]
    exact finds_target _ (.long value) high

end Offset

namespace Layout
open Scan Instruction

variable {memory : Memory} {version : Version}

theorem finds_store (layout : Layout version) {address : Nat} :
    Finds memory
      (if (layout.head.opcode version).stores then some <$> scanStore memory else pure none) address
      layout.storeBytes (layout.store.map fun target => ⟨address, target⟩) := by
  apply finds_part (layout.stores.trans (Head.stores_opcode version layout.head).symm)
  intro target _
  exact finds_get.bind ((finds_nextByte target).map (Store.mk address))

theorem finds_branch (layout : Layout version) {address : Nat} :
    Finds memory
      (if (layout.head.opcode version).branches then some <$> scanBranch memory else pure none)
      address layout.branchBytes
      (layout.branch.map fun branch =>
        ⟨address, branch.1, branch.2.target (address + layout.branchBytes.length)⟩) := by
  apply finds_part (layout.branches.trans (Head.branches_opcode version layout.head).symm)
  intro branch given
  rw [branchBytes, given]
  exact Offset.finds_branch branch.1 branch.2

theorem finds_literal (layout : Layout version) {address : Nat} :
    Finds memory (if (layout.head.opcode version).hasLiteral then skipLiteral memory else pure ())
      address layout.literalBytes () := by
  have present := layout.prints.trans (Head.hasLiteral_opcode version layout.head).symm
  rw [literalBytes]
  cases literal : layout.literal with
  | none =>
    rw [literal] at present
    rw [if_neg fun wanted => nomatch present.mpr wanted]
    exact finds_pure ()
  | some words =>
    rw [literal] at present
    rw [if_pos (present.mp rfl)]
    intro held
    simp only [skipLiteral, Memory.textEnd_of_holds (layout.terminated words literal) held,
      Option.elim_some, wordBytes_length]
    rfl

/-- An instruction that prints has an opcode of one byte and nothing else but its text. -/
theorem bytes_of_literal (layout : Layout version) {words : List UInt16}
    (printed : layout.literal = some words) :
    layout.bytes = layout.head.opcodeByte :: wordBytes words ∧ layout.branch = none := by
  have prints : layout.head.Prints := layout.prints.mp (by rw [printed]; rfl)
  obtain ⟨number, head, which⟩ : ∃ number, layout.head = .zero number ∧
      (number = 0x02 ∨ number = 0x03) := by
    cases head : layout.head with
    | zero number => exact ⟨number, rfl, by rwa [head] at prints⟩
    | one | long | two | any | extended =>
      rw [head] at prints
      exact prints.elim
  have store : layout.store = none := by
    rw [← Option.not_isSome_iff_eq_none, layout.stores, head]
    simp only [Head.Stores]
    omega
  have branch : layout.branch = none := by
    rw [← Option.not_isSome_iff_eq_none, layout.branches, head]
    simp only [Head.Branches]
    omega
  refine ⟨?_, branch⟩
  simp only [bytes, headBytes, storeBytes, branchBytes, literalBytes, printed, store, branch, head]
  rfl

theorem finds_instruction (layout : Layout version) (address : Nat) :
    Finds memory (scan memory version) address layout.bytes (layout.instruction address) := by
  have parts : layout.bytes = layout.head.opcodeBytes ++ (layout.head.kindBytes ++
      (layout.head.arguments.flatMap Argument.bytes ++ (layout.storeBytes ++
        (layout.branchBytes ++ (layout.literalBytes ++ []))))) := by
    simp only [bytes, headBytes, List.append_assoc, List.append_nil]
  rw [parts]
  apply finds_get.bind
  apply (Head.finds_opcode layout.fits).bind
  apply (Head.finds_kinds layout.fits).bind
  apply (Argument.finds_operands _).bind
  apply layout.finds_store.bind_ite
  apply layout.finds_branch.bind_ite
  apply layout.finds_literal.bind_ite
  apply finds_get.bind
  apply finds_pure_of_eq
  simp only [instruction, bytes, headBytes, List.length_append, List.length_nil, Nat.add_zero,
    Nat.add_assoc]
  cases literal : layout.literal with
  | none => simp only [literalBytes, literal, Option.elim_none, List.length_nil, Nat.add_zero]
  | some words => simp only [(layout.bytes_of_literal literal).2, Option.map_none]

end Layout

/-- Decoding the bytes of an instruction gives that instruction, and the literal that it prints is
the text that follows its opcode. -/
theorem Story.decodeInstruction_layout (story : Story) (layout : Layout story.version)
    (address : Nat) (held : story.memory.Holds address layout.bytes) :
    story.decodeInstruction address = .ok (layout.instruction address) ∧
      ∀ words, layout.literal = some words →
        story.memory.textWords (address + 1) = .ok words ∧
        story.memory.textEnd (address + 1) = .ok (layout.instruction address).next := by
  constructor
  · rw [decodeInstruction, layout.finds_instruction address held]
    rfl
  · intro words printed
    have bytes := (layout.bytes_of_literal printed).1
    have terminated := layout.terminated words printed
    have text := (Memory.holds_cons.mp (bytes ▸ held)).2
    refine ⟨Memory.textWords_of_holds terminated text, ?_⟩
    rw [Memory.textEnd_of_holds terminated text, Layout.instruction, bytes, List.length_cons,
      wordBytes_length, Nat.add_assoc, Nat.add_comm 1]

def Story.threeInstructions : Story where
  format := ⟨.v5, 0, 0⟩
  memory := .ofStatic (Array.replicate 0x40 0 ++
    (Layout.wideCall.bytes ++ Layout.branchBack.bytes ++ Layout.printTwo.bytes).toArray) (by simp)

theorem Story.decodeInstruction_layout_threeInstructions :
    threeInstructions.decodeInstruction 0x40 = .ok (Layout.wideCall.instruction 0x40) ∧
      threeInstructions.decodeInstruction 0x4b = .ok (Layout.branchBack.instruction 0x4b) ∧
      threeInstructions.decodeInstruction 0x50 = .ok (Layout.printTwo.instruction 0x50) ∧
      threeInstructions.memory.textWords 0x51 = .ok [0x1234, 0x9234] := by
  have call : threeInstructions.memory.Holds 0x40 Layout.wideCall.bytes := by
    decide +kernel
  have jump : threeInstructions.memory.Holds 0x4b Layout.branchBack.bytes := by
    decide +kernel
  have print : threeInstructions.memory.Holds 0x50 Layout.printTwo.bytes := by
    decide +kernel
  obtain ⟨printed, literal⟩ :=
    decodeInstruction_layout threeInstructions Layout.printTwo 0x50 print
  exact ⟨(decodeInstruction_layout threeInstructions Layout.wideCall 0x40 call).1,
    (decodeInstruction_layout threeInstructions Layout.branchBack 0x4b jump).1, printed,
    (literal _ rfl).1⟩

end StoryMachine
