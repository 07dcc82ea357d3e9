import StoryMachine.Proofs.CallIsolation
import StoryMachine.Proofs.InstructionDecoding
import StoryMachine.Proofs.StoryErrors

/-! Branches. A branch is written as an offset, of which 0 and 1 stand for returning false and true.
The decoder turns it into an address and keeps 0 and 1 for the returns, so that an offset that leads
to the address 0 or 1 returns as well. -/

namespace StoryMachine

/-- No operation both branches and prints the text after it. -/
theorem Opcode.hasLiteral_of_branches {opcode : Opcode} (branches : opcode.branches = true) :
    opcode.hasLiteral = false := by
  rw [Opcode.branches, Option.any_eq_true] at branches
  obtain ⟨operation, means, branches⟩ := branches
  rw [hasLiteral, means, Option.any_some]
  cases operation with
  | print | printRet => cases branches
  | _ => rfl

namespace Offset

/-- A byte with bit 6 set is a short offset with the condition in its top bit. -/
theorem exists_short {first : UInt8} (form : first.toNat / 64 % 2 = 1) :
    ∃ (condition : Bool) (offset : Offset), offset.bytes condition = [first] := by
  refine ⟨decide (128 ≤ first.toNat), .short ⟨first.toNat % 64, by omega⟩, ?_⟩
  have bound := first.toNat_lt
  simp only [bytes, decide_eq_true_eq, List.cons.injEq, and_true]
  apply UInt8.toNat.inj
  rw [UInt8.toNat_ofNat']
  split <;> omega

/-- A byte with bit 6 clear and the next one are a long offset. -/
theorem exists_long {first : UInt8} (form : ¬ first.toNat / 64 % 2 = 1) (second : UInt8) :
    ∃ (condition : Bool) (offset : Offset), offset.bytes condition = [first, second] := by
  refine ⟨decide (128 ≤ first.toNat),
    .long (BitVec.ofNat 14 (256 * (first.toNat % 64) + second.toNat)), ?_⟩
  have bound := first.toNat_lt
  have bound' := second.toNat_lt
  have value : (BitVec.ofNat 14 (256 * (first.toNat % 64) + second.toNat)).toNat =
      256 * (first.toNat % 64) + second.toNat := by
    rw [BitVec.toNat_ofNat]
    omega
  simp only [bytes, value, decide_eq_true_eq, List.cons.injEq, and_true]
  constructor
  · apply UInt8.toNat.inj
    rw [UInt8.toNat_ofNat']
    split <;> omega
  · apply UInt8.toNat.inj
    rw [UInt8.toNat_ofNat']
    omega

theorem target_of_zero {offset : Offset} (zero : offset.toInt = 0) (next : Nat) :
    offset.target next = 0 :=
  if_pos zero

theorem target_of_one {offset : Offset} (one : offset.toInt = 1) (next : Nat) :
    offset.target next = 1 := by
  rw [target, if_neg (by omega), if_pos one]

theorem target_of_real {offset : Offset} (notZero : offset.toInt ≠ 0) (notOne : offset.toInt ≠ 1)
    (next : Nat) :
    offset.target next = ((next + offset.toInt - 2) % 18446744073709551616).toNat := by
  rw [target, if_neg notZero, if_neg notOne]

end Offset

namespace Instruction
open Scan

theorem nextByte_eq_ok {memory : Memory} {address stop : Nat} {value : UInt8}
    (found : nextByte memory address = .ok (value, stop)) :
    memory.readByte address = .ok value ∧ stop = address + 1 := by
  obtain ⟨byte, read, rest⟩ := exists_of_bind_eq_ok found
  cases rest
  exact ⟨read, rfl⟩

/-- Every branch that is scanned is written as an offset, and leads where the offset does. -/
theorem scanBranch_eq_ok {memory : Memory} {address stop : Nat} {branch : Branch}
    (found : scanBranch memory address = .ok (branch, stop)) :
    ∃ offset : Offset, memory.Holds address (offset.bytes branch.condition) ∧
      stop = address + (offset.bytes branch.condition).length ∧ branch.address = address ∧
      branch.target = offset.target stop := by
  -- Once the bytes are known to be those of an offset, decoding them gives the branch back.
  suffices ∃ (condition : Bool) (offset : Offset), memory.Holds address (offset.bytes condition) by
    obtain ⟨condition, offset, held⟩ := this
    cases found.symm.trans (Offset.finds_branch condition offset held)
    exact ⟨offset, held, rfl, rfl, rfl⟩
  obtain ⟨start, _, got, found⟩ := bind_eq_ok found
  cases got
  obtain ⟨first, _, read, found⟩ := bind_eq_ok found
  obtain ⟨here, rfl⟩ := nextByte_eq_ok read
  obtain ⟨value, _, scanned, -⟩ := bind_eq_ok found
  rw [scanOffset] at scanned
  split at scanned
  next form =>
    obtain ⟨condition, offset, bytes⟩ := Offset.exists_short form
    refine ⟨condition, offset, ?_⟩
    rw [bytes]
    exact Memory.holds_cons.mpr ⟨here, Memory.holds_nil _ _⟩
  next form =>
    obtain ⟨second, _, read, -⟩ := bind_eq_ok scanned
    obtain ⟨there, -⟩ := nextByte_eq_ok read
    obtain ⟨condition, offset, bytes⟩ := Offset.exists_long form second
    refine ⟨condition, offset, ?_⟩
    rw [bytes]
    exact Memory.holds_cons.mpr ⟨here, Memory.holds_cons.mpr ⟨there, Memory.holds_nil _ _⟩⟩

/-- A branch is the last part of an instruction. -/
theorem scanBranch_of_scan {memory : Memory} {version : Version} {address stop : Nat}
    {instruction : Instruction} (found : scan memory version address = .ok (instruction, stop))
    {branch : Branch} (branches : instruction.branch = some branch) :
    ∃ start, scanBranch memory start = .ok (branch, instruction.next) := by
  obtain ⟨start, first, got, found⟩ := bind_eq_ok found
  obtain ⟨opcode, second, -, found⟩ := bind_eq_ok found
  obtain ⟨kinds, third, -, found⟩ := bind_eq_ok found
  obtain ⟨operands, fourth, -, found⟩ := bind_eq_ok found
  obtain ⟨store, fifth, -, -, found⟩ := optional_eq_ok found
  obtain ⟨branch', sixth, asked, scanned, found⟩ := optional_eq_ok found
  dsimp only at found
  split at found
  next literal =>
    obtain ⟨-, seventh, -, found⟩ := bind_eq_ok found
    cases found
    obtain rfl : branch' = some branch := branches
    rw [Opcode.hasLiteral_of_branches asked.symm] at literal
    cases literal
  next =>
    cases found
    exact ⟨fifth, scanned branch branches⟩

end Instruction

/-- An instruction that branches ends with the offset of its branch. -/
theorem Story.branch_of_decoded {story : Story} {address : Nat} {instruction : Instruction}
    (decoded : story.decodeInstruction address = .ok instruction)
    (branches : instruction.opcode.branches = true) :
    ∃ (branch : Branch) (offset : Offset), instruction.branch = some branch ∧
      story.memory.Holds branch.address (offset.bytes branch.condition) ∧
      branch.address + (offset.bytes branch.condition).length = instruction.next ∧
      branch.target = offset.target instruction.next := by
  have present := (decoded_of_decodeInstruction decoded).branches
  rw [branches] at present
  obtain ⟨branch, given⟩ := Option.isSome_iff_exists.mp present
  obtain ⟨start, scanned⟩ := Instruction.scanBranch_of_scan (scan_of_decoded decoded) given
  obtain ⟨offset, held, ending, rfl, target⟩ := Instruction.scanBranch_eq_ok scanned
  exact ⟨branch, offset, given, held, ending.symm, target⟩

namespace Engine

variable {η : Type} [Host η]

def testOperands (instruction : Instruction) (required : Nat) (test : Operands → Bool) :
    Engine η Bool := do
  let operands ← evaluate instruction required
  return test operands

def testStepped (instruction : Instruction) (step : UInt16 → UInt16)
    (test : UInt16 → UInt16 → Bool) : Engine η Bool := do
  let operands ← evaluate instruction 2
  let number := byteOperand operands.first
  let value := step (← peekVariable number)
  replaceVariable number value
  return test value operands.second

def testLink (instruction : Instruction) (link : Link) : Engine η Bool := do
  let operands ← evaluate instruction 1
  let object ← query (·.link link operands.first.toNat)
  storeResult instruction (UInt16.ofNat object)
  return object ≠ 0

/-- What an operation does up to its branch, and what it branches on. -/
def branchTest (instruction : Instruction) : Operation → Engine η Bool
  | .je => testOperands instruction 2 fun operands => operands.first ∈ operands.rest
  | .jl => testOperands instruction 2 fun operands => signedLess operands.first operands.second
  | .jg => testOperands instruction 2 fun operands => signedGreater operands.first operands.second
  | .test => testOperands instruction 2 fun operands => hasBits operands.first operands.second
  | .jz => testOperands instruction 1 fun operands => operands.first = 0
  | .decChk => testStepped instruction (· - 1) signedLess
  | .incChk => testStepped instruction (· + 1) signedGreater
  | .jin => do
    let operands ← evaluate instruction 2
    let parent ← query (·.parent operands.first.toNat)
    return parent = operands.second.toNat
  | .testAttr => do
    let operands ← evaluate instruction 2
    query (·.hasAttribute operands.first.toNat (byteOperand operands.second))
  | .getSibling => testLink instruction .sibling
  | .getChild => testLink instruction .child
  | .save => saveGame instruction.address
  | .restore => return (← restoreGame).isSome
  | .verify => return (← get).story.memory.isIntact
  | .piracy => return true
  | .scanTable => do
    let operands ← evaluate instruction 3
    let form := (operands.get? 3).elim 0x82 UInt16.toNat
    let found ← query
      (·.memory.scanTable operands.first form operands.second.toNat operands.third.toNat)
    storeResult instruction (UInt16.ofNat (found.getD 0))
    return found.isSome
  | .checkArgCount => do
    let operands ← evaluate instruction 1
    let top ← queryStack (·.top)
    return operands.first ≤ top.argumentCount.toUInt16
  | .pictureData => do
    let operands ← evaluate instruction 2
    match ← ask (Presentation.pictureData operands.first) with
    | some (height, width) =>
      update (Update.writeWords operands.second.toNat [height, width])
      return true
    | none => return false
  | .pushStack => do
    let operands ← evaluate instruction 2
    update (Update.pushUserStack operands.second.toNat operands.first)
  | .makeMenu => do
    let operands ← evaluate instruction 2
    if operands.first < 3 then
      throw (.reservedMenu operands.first.toNat)
    let table := operands.second.toNat
    let items ← if table = 0 then pure [] else query (·.memory.menuItems table)
    ask (Presentation.makeMenu operands.first items)
  | _ => return false

/-- An operation that branches does so on its test. A restore is apart, since it goes on elsewhere
if it works. -/
theorem perform_eq_branchOn {instruction : Instruction} {version : Version} {operation : Operation}
    (branches : operation.branches version = true) (given : instruction.branch.isSome = true)
    (other : operation ≠ .restore) :
    (perform instruction operation : Engine η Continuation) =
      branchTest instruction operation >>= branchOn instruction := by
  cases operation with
  | je | jl | jg | test | jz =>
    simp only [perform, branchTest, branchEqual, branchBinary, branchUnary, testOperands,
      bind_assoc, pure_bind]
  | decChk | incChk =>
    simp only [perform, branchTest, stepAndBranch, testStepped, bind_assoc, pure_bind]
  | getSibling | getChild =>
    simp only [perform, branchTest, storeLinkAndBranch, testLink, bind_assoc, pure_bind]
  | jin => simp only [perform, branchTest, branchInside, bind_assoc, pure_bind]
  | testAttr => simp only [perform, branchTest, testAttribute, bind_assoc]
  | verify => simp only [perform, branchTest, verify, bind_assoc, pure_bind]
  | piracy => simp only [perform, branchTest, pure_bind]
  | scanTable => simp only [perform, branchTest, scanTable, bind_assoc, pure_bind]
  | checkArgCount => simp only [perform, branchTest, checkArgumentCount, bind_assoc, pure_bind]
  | pushStack => simp only [perform, branchTest, pushStack, bind_assoc]
  | save => simp only [perform, branchTest, save, finishSave, given, if_true]
  | restore => exact absurd rfl other
  | pictureData =>
    simp only [perform, branchTest, pictureData, bind_assoc]
    apply bind_congr
    intro operands
    apply bind_congr
    intro picture
    cases picture <;> simp only [bind_assoc, pure_bind]
  | makeMenu =>
    simp only [perform, branchTest, makeMenu, bind_assoc]
    apply bind_congr
    intro operands
    split
    · rfl
    · split <;> simp only [bind_assoc]
  | _ => cases branches

/-- Up to its branch, an operation leaves the frames on the stack. -/
theorem topChanged_branchTest {instruction : Instruction} {operation : Operation}
    {machine middle : Machine η} {condition : Bool}
    (tested : branchTest instruction operation machine = .ok condition middle)
    (failed : operation = .restore → condition = false) :
    CallStack.TopChanged machine.stack middle.stack := by
  have quiet (kept : Keeps Quiet (branchTest instruction operation : Engine η Bool)) :
      CallStack.TopChanged machine.stack middle.stack := (kept.of_ok tested).stack
  cases operation with
  | je | jl | jg | test | jz =>
    apply quiet
    exact (quiet_evaluate instruction _).bind fun operands => keeps_pure _
  | decChk | incChk =>
    apply quiet
    refine (quiet_evaluate instruction 2).bind fun operands => ?_
    refine (quiet_peekVariable _).bind fun value => ?_
    exact (quiet_replaceVariable _ _).bind fun _ => keeps_pure _
  | getSibling | getChild =>
    apply quiet
    refine (quiet_evaluate instruction 1).bind fun operands => ?_
    refine (keeps_query _).bind fun object => ?_
    exact (quiet_storeResult instruction _).bind fun _ => keeps_pure _
  | jin =>
    apply quiet
    refine (quiet_evaluate instruction 2).bind fun operands => ?_
    exact (keeps_query _).bind fun parent => keeps_pure _
  | testAttr =>
    apply quiet
    exact (quiet_evaluate instruction 2).bind fun operands => keeps_query _
  | verify =>
    apply quiet
    exact keeps_get.bind fun _ => keeps_pure _
  | scanTable =>
    apply quiet
    refine (quiet_evaluate instruction 3).bind fun operands => ?_
    refine (keeps_query _).bind fun found => ?_
    exact (quiet_storeResult instruction _).bind fun _ => keeps_pure _
  | checkArgCount =>
    apply quiet
    refine (quiet_evaluate instruction 1).bind fun operands => ?_
    exact (keeps_queryStack _).bind fun top => keeps_pure _
  | pictureData =>
    apply quiet
    refine (quiet_evaluate instruction 2).bind fun operands => ?_
    refine (quiet_ask (Consulted.picture _)).bind fun size => ?_
    split
    · exact (quiet_update (Update.keeps_writeWords _ _)).bind fun _ => keeps_pure _
    · exact keeps_pure _
  | pushStack =>
    apply quiet
    refine (quiet_evaluate instruction 2).bind fun operands => ?_
    exact quiet_update (Update.keeps_pushUserStack _ _)
  | makeMenu =>
    apply quiet
    refine (quiet_evaluate instruction 2).bind fun operands => ?_
    refine (keeps_throw _).ite_bind fun _ => ?_
    refine Keeps.ite ((keeps_pure []).bind fun items => ?_) ((keeps_query _).bind fun items => ?_)
    all_goals exact quiet_ask (Consulted.menu _ items)
  | save =>
    cases tested
    exact .same _
  | restore =>
    obtain ⟨value, after, ran, ⟨rfl, rfl⟩ | ⟨snapshot, rfl, -⟩⟩ := restoreGame_cases machine
    · rw [branchTest, bind_of_ok ran] at tested
      cases tested
      exact .same _
    · rw [branchTest, bind_of_ok ran] at tested
      cases tested
      cases failed rfl
  | _ =>
    apply quiet
    exact keeps_pure _

end Engine

/-- Carrying out an instruction comes to its branch in this state, with this outcome of its test. A
restore comes to its own branch only if it fails. -/
def Machine.ComesToBranch {η : Type} [Host η] (machine : Machine η) (instruction : Instruction)
    (condition : Bool) (middle : Machine η) : Prop :=
  ∃ operation, instruction.opcode.operation? = some operation ∧
    operation.isAvailable machine.version = true ∧
    Engine.branchTest instruction operation machine = .ok condition middle ∧
    (operation = .restore → condition = false)

namespace Engine

variable {η : Type} [Host η] {machine middle : Machine η} {instruction : Instruction}
  {condition : Bool}

/-- A return takes the innermost frame off the stack, whether or not its result can be stored. -/
theorem depth_returnValue (active : machine.stack.isEmpty = false) (value : UInt16) :
    (finalState (returnValue value machine)).stack.depth + 1 = machine.stack.depth := by
  cases frames : machine.stack.frames with
  | nil => simp [CallStack.isEmpty, frames] at active
  | cons frame outer =>
    have popped : ({ machine with stack := ⟨outer⟩ } : Machine η).stack.depth + 1 =
        machine.stack.depth := by
      simp only [CallStack.depth, frames, List.length_cons]
    have returned := returned_returnValue machine frames value
    generalize returnValue value machine = result at returned ⊢
    rw [← popped]
    cases returned with
    | last | dropped | resumed => rfl
    | @stored store _ _ _ written =>
      have kept := quiet_writeVariable store.target.toNat value { machine with stack := ⟨outer⟩ }
      rw [written] at kept
      exact congrArg (· + 1) kept.sameBelow.depth_eq
    | @unstored store _ _ _ _ failed =>
      have kept := quiet_writeVariable store.target.toNat value { machine with stack := ⟨outer⟩ }
      rw [failed] at kept
      exact congrArg (· + 1) kept.sameBelow.depth_eq

/-- What is left of an instruction that has come to its branch is the branch. -/
theorem dispatch_of_comesToBranch (branches : instruction.opcode.branches = true)
    (given : instruction.branch.isSome = true)
    (comes : machine.ComesToBranch instruction condition middle) :
    dispatch instruction machine = branchOn instruction condition middle := by
  obtain ⟨operation, means, available, tested, failed⟩ := comes
  rw [Opcode.branches, means, Option.any_some] at branches
  rw [dispatch_of_known means, if_pos available]
  by_cases restores : operation = .restore
  · subst restores
    obtain rfl := failed rfl
    obtain ⟨value, after, ran, ⟨rfl, rfl⟩ | ⟨snapshot, rfl, -⟩⟩ := restoreGame_cases machine
    all_goals
      rw [branchTest, bind_of_ok ran] at tested
      cases tested
    simp only [perform, restore, bind_of_ok ran, finishSave, given, if_true]
  · rw [perform_eq_branchOn branches given restores, bind_of_ok tested]

omit [Host η] in
/-- A branch that is taken returns where its target is 0 or 1, and goes to it otherwise. -/
theorem branchOn_eq {branch : Branch} (given : instruction.branch = some branch) :
    branchOn instruction condition machine =
      if condition = branch.condition then
        if branch.target = 0 then returnValue 0 machine
        else if branch.target = 1 then returnValue 1 machine
        else .ok (.goto branch.target) machine
      else .ok (.goto instruction.next) machine := by
  simp only [branchOn, given]
  by_cases taken : condition = branch.condition
  · rw [if_pos taken, if_pos taken]
    rcases branch.target with _ | _ | address
    · rfl
    · rfl
    · rfl
  · rw [if_neg taken, if_neg taken]
    rfl

/-- An operation that branches and is carried out comes to its branch, unless it is a restore that
works. -/
theorem comesToBranch_of_ok (branches : instruction.opcode.branches = true)
    (given : instruction.branch.isSome = true) {next : Continuation} {after : Machine η}
    (ran : dispatch instruction machine = .ok next after) :
    (∃ condition middle, machine.ComesToBranch instruction condition middle) ∨
      instruction.opcode.operation? = some .restore ∧
        ∃ middle, branchTest instruction .restore machine = .ok true middle := by
  rw [Opcode.branches, Option.any_eq_true] at branches
  obtain ⟨operation, means, branches⟩ := branches
  rw [dispatch_of_known means] at ran
  split at ran
  next available =>
    by_cases restores : operation = .restore
    · subst restores
      obtain ⟨value, middle, asked, -⟩ := restoreGame_cases machine
      have tested : branchTest instruction .restore machine = .ok value.isSome middle :=
        bind_of_ok asked
      cases value with
      | none => exact .inl ⟨false, middle, .restore, means, available, tested, fun _ => rfl⟩
      | some address => exact .inr ⟨means, middle, tested⟩
    · rw [perform_eq_branchOn branches given restores] at ran
      obtain ⟨condition, middle, tested, -⟩ := exists_of_bind_ok ran
      exact .inl ⟨condition, middle, operation, means, available, tested,
        fun restores' => absurd restores' restores⟩
  next => cases ran

/-- The branch of an instruction goes by its offset, which its last bytes give, after a test that
leaves the frames as they are. If the test does not come out as the branch asks, execution goes on
after the instruction. If it does, the offsets 0 and 1 return false and true, and every other offset
leads to an address of 64 bits; but an offset that leads to the address 0 or 1 returns false or true
as well. A return takes one frame off the stack. -/
theorem branch_follows_offset {address : Nat}
    (decoded : machine.story.decodeInstruction address = .ok instruction)
    (branches : instruction.opcode.branches = true) :
    ∃ (branch : Branch) (offset : Offset), instruction.branch = some branch ∧
      machine.story.memory.Holds branch.address (offset.bytes branch.condition) ∧
      branch.address + (offset.bytes branch.condition).length = instruction.next ∧
      (∀ next after, dispatch instruction machine = .ok next after →
        (∃ condition middle, machine.ComesToBranch instruction condition middle) ∨
          instruction.opcode.operation? = some .restore ∧
            ∃ middle, branchTest instruction .restore machine = .ok true middle) ∧
      ∀ condition middle, machine.ComesToBranch instruction condition middle →
        let target := (instruction.next + offset.toInt - 2) % 18446744073709551616
        middle.stack.depth = machine.stack.depth ∧
        (∀ value, middle.stack.isEmpty = false →
          (finalState (returnValue value middle)).stack.depth + 1 = machine.stack.depth) ∧
        (condition ≠ branch.condition →
          dispatch instruction machine = .ok (.goto instruction.next) middle) ∧
        (condition = branch.condition →
          (offset.toInt = 0 → dispatch instruction machine = returnValue 0 middle) ∧
          (offset.toInt = 1 → dispatch instruction machine = returnValue 1 middle) ∧
          (offset.toInt ≠ 0 → offset.toInt ≠ 1 →
            (target = 0 → dispatch instruction machine = returnValue 0 middle) ∧
            (target = 1 → dispatch instruction machine = returnValue 1 middle) ∧
            (target ≠ 0 → target ≠ 1 →
              dispatch instruction machine = .ok (.goto target.toNat) middle))) := by
  obtain ⟨branch, offset, given, held, ending, leads⟩ :=
    Story.branch_of_decoded decoded branches
  have present : instruction.branch.isSome = true := by rw [given]; rfl
  refine ⟨branch, offset, given, held, ending, ?_, ?_⟩
  · intro next after ran
    exact comesToBranch_of_ok branches present ran
  intro condition middle comes target
  have reached := (dispatch_of_comesToBranch branches present comes).trans (branchOn_eq given)
  obtain ⟨operation, -, -, tested, failed⟩ := comes
  have depth := (topChanged_branchTest tested failed).sameBelow.depth_eq
  refine ⟨depth, ?_, ?_, ?_⟩
  · intro value active
    rw [depth_returnValue active value, depth]
  · intro otherwise
    rw [reached, if_neg otherwise]
  · intro taken
    rw [if_pos taken, leads] at reached
    refine ⟨?_, ?_, ?_⟩
    · intro zero
      rw [reached, Offset.target_of_zero zero, if_pos rfl]
    · intro one
      rw [reached, Offset.target_of_one one, if_neg (by decide), if_pos rfl]
    · intro notZero notOne
      rw [Offset.target_of_real notZero notOne] at reached
      have positive : 0 ≤ target := Int.emod_nonneg _ (by decide)
      refine ⟨?_, ?_, ?_⟩
      · intro zero
        rw [reached, if_pos (by omega)]
      · intro one
        rw [reached, if_neg (by omega), if_pos (by omega)]
      · intro beyondZero beyondOne
        rw [reached, if_neg (by omega), if_neg (by omega)]

/-- A machine of version 3 that is about to branch back if zero is zero, by an offset of two bytes
of which this is the second. -/
def branchingBack (low : UInt8) : Machine MemoryStore :=
  Machine.ofBytes .v3 [(0x40, 0x90), (0x42, 0xbf), (0x43, low)]

def branchTo (target : Nat) : Instruction where
  address := 0x40
  opcode := .ofByte .v3 0x90
  operands := [⟨.smallConstant, 0⟩]
  store := none
  branch := some ⟨0x42, true, target⟩
  next := 0x44

theorem branch_follows_offset_branchingBack :
    let machine := branchingBack 0xc0
    machine.story.decodeInstruction 0x40 = .ok (branchTo 2) ∧
      machine.ComesToBranch (branchTo 2) true machine ∧
      ∃ offset : Offset, machine.story.memory.Holds 0x42 (offset.bytes true) ∧
        offset.toInt = -64 ∧ dispatch (branchTo 2) machine = .ok (.goto 2) machine := by
  intro machine
  have decoded : machine.story.decodeInstruction 0x40 = .ok (branchTo 2) := by decide +kernel
  have comes : machine.ComesToBranch (branchTo 2) true machine :=
    ⟨.jz, by decide +kernel, by decide +kernel, rfl, by rintro ⟨⟩⟩
  obtain ⟨branch, offset, given, held, ending, -, follows⟩ :=
    branch_follows_offset decoded (by decide +kernel)
  cases given
  have value : offset.toInt = -64 := by
    cases offset with
    | short value => cases ending
    | long value =>
      obtain ⟨high, rest⟩ := Memory.holds_cons.mp held
      have low := (Memory.holds_cons.mp rest).1
      have first : machine.story.memory.readByte 0x42 = .ok 0xbf := by decide +kernel
      have second : machine.story.memory.readByte 0x43 = .ok 0xc0 := by decide +kernel
      have upper := congrArg UInt8.toNat (Except.ok.inj (first.symm.trans high))
      have lower := congrArg UInt8.toNat (Except.ok.inj (second.symm.trans low))
      have bound : value.toNat < 16384 := value.isLt
      simp only [UInt8.toNat_ofNat', UInt8.reduceToNat, if_true] at upper lower
      rw [Offset.toInt, BitVec.toInt_eq_toNat_cond]
      split <;> omega
  obtain ⟨-, -, -, taken⟩ := follows true machine comes
  obtain ⟨-, -, goes⟩ := (taken rfl).2.2 (by omega) (by omega)
  rw [value] at goes
  exact ⟨decoded, comes, offset, held, value, goes (by decide) (by decide)⟩

/-- The offsets -66 and -65 lead to the addresses 0 and 1. Instead of going there, the branch
returns, which ends the story. -/
theorem branch_to_zero_returns :
    (branchingBack 0xbe).story.memory.Holds 0x42 ((Offset.long (-66)).bytes true) ∧
      (branchingBack 0xbe).story.decodeInstruction 0x40 = .ok (branchTo 0) ∧
      ((0x44 : Int) + (Offset.long (-66)).toInt - 2) % 18446744073709551616 = 0 ∧
      (branchingBack 0xbe).stack.depth = 1 ∧
      ((branchingBack 0xbe).afterSteps [none]).stack.depth = 0 ∧
      ((branchingBack 0xbe).afterSteps [none]).status = .halted := by
  decide +kernel

end Engine

end StoryMachine
