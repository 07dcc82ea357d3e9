import Mathlib.Data.List.Forall2
import StoryMachine.Proofs.Stepping
import StoryMachine.Random.ChaCha

/-! Random numbers lie in the range that is asked for, whatever the source draws. After a small
negative range the source is left alone: the numbers count up and start over. -/

namespace StoryMachine

/-- The number that answers a request. A range that is not positive asks for none. -/
def AnswersRange (range : Int16) (value : UInt16) : Prop :=
  if 0 < range.toInt then 1 ≤ value.toNat ∧ (value.toNat : Int) ≤ range.toInt else value = 0

def Machine.counting {η : Type} (machine : Machine η) (limit turns : Nat) : Machine η :=
  { machine with randomMode := .counting (UInt16.ofNat limit) (UInt16.ofNat (turns % limit)) }

/-- A positive range as a word. -/
theorem toNat_of_positive {range : Int16} (positive : 0 < range.toInt) :
    range.toUInt16.toNat = range.toInt.toNat :=
  Int16.toNat_toUInt16_of_le (Int16.le_iff_toInt_le.mpr (Int.le_of_lt positive))

/-- A number below a positive range still has a successor. -/
theorem toNat_mod_add_one {range : Int16} (positive : 0 < range.toInt) (value : UInt16) :
    (value % range.toUInt16 + 1).toNat = value.toNat % range.toInt.toNat + 1 := by
  have small : range.toInt < 32768 := range.toInt_lt
  have below : value.toNat % range.toInt.toNat < range.toInt.toNat := Nat.mod_lt _ (by omega)
  have one : (1 : UInt16).toNat = 1 := rfl
  rw [UInt16.toNat_add, UInt16.toNat_mod, toNat_of_positive positive, one]
  exact Nat.mod_eq_of_lt (by omega)

/-- Every range but 0 is taken as it is. -/
theorem Generator.below_eq {η : Type} [RandomSource η] {generator next : Generator η}
    {range value : UInt16} (positive : 0 < range.toNat)
    (generated : generator.generate = (value, next)) :
    generator.below range = (value % range, next) := by
  rw [below, generated]
  change (value % (if range ≤ 1 then 1 else range), next) = _
  split
  next least =>
    have one : range.toNat ≤ 1 := UInt16.le_iff_toNat_le.mp least
    obtain rfl : range = 1 := UInt16.toNat.inj (Nat.le_antisymm one positive)
    rfl
  next => rfl

/-- The sizes from 1 to 999 are counted up to, and all others seed the source. -/
theorem Generator.seed_eq {η : Type} [RandomSource η] (generator : Generator η) {size : Nat}
    (small : size < 65536) :
    let word := UInt16.ofNat size
    generator.seed word (0 < word ∧ word < 1000) =
      if 1 ≤ size ∧ size ≤ 999 then { generator with mode := .counting word 0 }
      else ⟨.random, RandomSource.seed (UInt64.ofNat size) generator.source⟩ := by
  intro word
  have value : word.toNat = size := UInt16.toNat_ofNat_of_lt' small
  have least : 0 < word ↔ 1 ≤ size := by
    rw [UInt16.lt_iff_toNat_lt, value]
    rfl
  have most : word < 1000 ↔ size ≤ 999 := by
    rw [UInt16.lt_iff_toNat_lt, value]
    exact Nat.lt_succ_iff
  have some : word ≠ 0 ↔ 1 ≤ size := by
    rw [← least, UInt16.pos_iff_ne_zero]
  have wide : word.toUInt64 = UInt64.ofNat size := by
    apply UInt64.toNat.inj
    rw [UInt16.toNat_toUInt64, value, UInt64.toNat_ofNat_of_lt' (Nat.lt_trans small (by decide))]
  simp only [seed, least, most, some, wide, decide_eq_true_eq, and_right_comm, and_self]

namespace Engine

variable {η : Type} [RandomSource η] {machine : Machine η} {range : Int16}

theorem random_of_generate (positive : 0 < range.toInt) {value : UInt16} {generator : Generator η}
    (generated : Generator.generate ⟨machine.randomMode, machine.host⟩ = (value, generator)) :
    random range machine = .ok (value % range.toUInt16 + 1)
      { machine with randomMode := generator.mode, host := generator.source } := by
  have asked : 0 < range := Int16.lt_iff_toInt_lt.mpr positive
  have room : 0 < range.toUInt16.toNat := by
    rw [toNat_of_positive positive]
    omega
  have drawn := Generator.below_eq room generated
  simp only [random, asked, if_true, drawn]

/-- A range that is not positive makes the machine count, or seeds the source. -/
theorem random_of_not_positive (negative : range.toInt ≤ 0) :
    random range machine =
      .ok 0 (if 1 ≤ range.toInt.natAbs ∧ range.toInt.natAbs ≤ 999 then
          machine.counting range.toInt.natAbs 0
        else { machine with
          randomMode := .random
          host := RandomSource.seed (UInt64.ofNat range.toInt.natAbs) machine.host }) := by
  have unasked : ¬ 0 < range := fun asked =>
    Int.not_lt.mpr negative (Int16.lt_iff_toInt_lt.mp asked)
  have least : -32768 ≤ range.toInt := range.le_toInt
  have seeded := Generator.seed_eq (⟨machine.randomMode, machine.host⟩ : Generator η)
    (show range.toInt.natAbs < 65536 by omega)
  simp only [random, unasked, if_false, seeded]
  split
  · rw [Machine.counting, Nat.zero_mod]
    rfl
  · rfl

/-- A request is always answered. -/
theorem random_answers (range : Int16) (machine : Machine η) :
    ∃ value after, random range machine = .ok value after ∧ AnswersRange range value := by
  by_cases positive : 0 < range.toInt
  · cases generated : Generator.generate ⟨machine.randomMode, machine.host⟩ with
    | mk value generator =>
      refine ⟨_, _, random_of_generate positive generated, ?_⟩
      have below : value.toNat % range.toInt.toNat < range.toInt.toNat := Nat.mod_lt _ (by omega)
      rw [AnswersRange, if_pos positive, toNat_mod_add_one positive]
      omega
  · refine ⟨_, _, random_of_not_positive (Int.not_lt.mp positive), ?_⟩
    rw [AnswersRange, if_neg positive]

/-- However many requests there are, each is answered. -/
theorem mapM_random_answers (ranges : List Int16) (machine : Machine η) :
    ∃ values after, ranges.mapM random machine = .ok values after ∧
      List.Forall₂ AnswersRange ranges values := by
  induction ranges generalizing machine with
  | nil => exact ⟨[], machine, rfl, .nil⟩
  | cons range rest ih =>
    obtain ⟨value, middle, ran, answers⟩ := random_answers range machine
    obtain ⟨values, after, ran', others⟩ := ih middle
    refine ⟨value :: values, after, ?_, .cons answers others⟩
    rw [List.mapM_cons, bind_of_ok ran, bind_of_ok ran']
    rfl

/-- A machine that counts answers by the turn it is at, and the source is not asked. -/
theorem random_of_counting {limit : Nat} (least : 1 ≤ limit) (most : limit ≤ 999) (turns : Nat)
    (positive : 0 < range.toInt) :
    random range (machine.counting limit turns) =
      .ok (UInt16.ofNat (turns % limit % range.toInt.toNat + 1))
        (machine.counting limit (turns + 1)) := by
  have small {number : Nat} (below : number ≤ 32768) : (UInt16.ofNat number).toNat = number :=
    UInt16.toNat_ofNat_of_lt' (Nat.lt_of_le_of_lt below (by decide))
  have place : turns % limit < limit := Nat.mod_lt _ least
  have next : (UInt16.ofNat (turns % limit) + 1) % UInt16.ofNat limit =
      UInt16.ofNat ((turns + 1) % limit) := by
    have later : (turns + 1) % limit < limit := Nat.mod_lt _ least
    have one : (1 : UInt16).toNat = 1 := rfl
    apply UInt16.toNat.inj
    rw [UInt16.toNat_mod, UInt16.toNat_add, small (by omega), small (by omega), small (by omega),
      one, ← Nat.mod_add_mod turns limit 1]
    congr 1
    exact Nat.mod_eq_of_lt (by omega)
  have value : UInt16.ofNat (turns % limit) % range.toUInt16 + 1 =
      UInt16.ofNat (turns % limit % range.toInt.toNat + 1) := by
    have below := Nat.mod_le (turns % limit) range.toInt.toNat
    apply UInt16.toNat.inj
    rw [toNat_mod_add_one positive, small (by omega), small (by omega)]
  rw [random_of_generate positive rfl]
  simp only [Machine.counting, next, value]

/-- Each of a row of positive ranges is answered by the turn. -/
theorem mapM_random_of_counting {limit : Nat} (least : 1 ≤ limit) (most : limit ≤ 999)
    {ranges : List Int16} (positive : ∀ range ∈ ranges, 0 < range.toInt) (turns : Nat) :
    ranges.mapM random (machine.counting limit turns) =
      .ok (ranges.mapIdx fun index range =>
          UInt16.ofNat ((turns + index) % limit % range.toInt.toNat + 1))
        (machine.counting limit (turns + ranges.length)) := by
  induction ranges generalizing turns with
  | nil => rfl
  | cons range rest ih =>
    have here := @random_of_counting η _ machine range limit least most turns
      (positive range List.mem_cons_self)
    have later := ih (fun other member => positive other (List.mem_cons_of_mem range member))
      (turns + 1)
    rw [List.mapM_cons, bind_of_ok here, bind_of_ok later, List.mapIdx_cons, List.length_cons]
    simp only [Nat.add_comm, Nat.add_left_comm]
    rfl

/-- Random numbers. Every request is answered, in any row of requests and whatever the source draws:
a positive range by a number from 1 up to it, any other by 0. After a range of -1 to -999, positive
ranges are answered by counting up to its size and starting over, for as long as they follow, and
the source stays as it was. A range of 0 or from -1000 down seeds the source with its size and ends
the counting. -/
theorem random_ranges_and_counting (machine : Machine η) :
    (∀ ranges : List Int16, ∃ values after, ranges.mapM random machine = .ok values after ∧
      List.Forall₂ AnswersRange ranges values) ∧
    (∀ limit : Nat, 1 ≤ limit → limit ≤ 999 →
      ∃ counting, random (Int16.ofInt (-limit)) machine = .ok 0 counting ∧
        ∀ ranges : List Int16, (∀ range ∈ ranges, 0 < range.toInt) →
          ∃ after, ranges.mapM random counting = .ok (ranges.mapIdx fun index range =>
              UInt16.ofNat (index % limit % range.toInt.toNat + 1)) after ∧
            after.host = machine.host) ∧
    ∀ range : Int16, range.toInt = 0 ∨ range.toInt ≤ -1000 →
      random range machine = .ok 0 { machine with
        randomMode := .random
        host := RandomSource.seed (UInt64.ofNat range.toInt.natAbs) machine.host } := by
  refine ⟨fun ranges => mapM_random_answers ranges machine, ?_, ?_⟩
  · intro limit least most
    have value : (Int16.ofInt (-limit)).toInt = -limit :=
      Int16.toInt_ofInt_of_le (by omega) (by omega)
    have size : (Int16.ofInt (-limit)).toInt.natAbs = limit := by omega
    have started : random (Int16.ofInt (-limit)) machine = .ok 0 (machine.counting limit 0) := by
      rw [random_of_not_positive (by omega), size, if_pos ⟨least, most⟩]
    refine ⟨_, started, fun ranges positive => ?_⟩
    have counted := @mapM_random_of_counting η _ machine limit least most ranges positive 0
    simp only [Nat.zero_add] at counted
    exact ⟨_, counted, rfl⟩
  · intro range seeds
    rw [random_of_not_positive (by omega), if_neg (by omega)]

def distracted : Machine ChaCha8 where
  story := (Machine.ofBytes .v5 []).story
  config := {}
  host := .ofSeed 7
  randomMode := .counting 999 998

theorem random_ranges_and_counting_distracted :
    (∃ values after, [6, -3, 0, 32767].mapM random distracted = .ok values after ∧
      List.Forall₂ AnswersRange [6, -3, 0, 32767] values) ∧
    (∃ counting, random (-3) distracted = .ok 0 counting ∧
      ∃ after, [100, 100, 2, 100, 1].mapM random counting = .ok [1, 2, 1, 1, 1] after ∧
        after.host = distracted.host) ∧
    random (-32768) distracted = .ok 0 { distracted with
      randomMode := .random
      host := RandomSource.seed 32768 distracted.host } := by
  obtain ⟨answers, counts, seeds⟩ := random_ranges_and_counting distracted
  refine ⟨answers _, ?_, seeds (-32768) (by decide)⟩
  obtain ⟨counting, started, follows⟩ := counts 3 (by decide) (by decide)
  have positive : ∀ range ∈ ([100, 100, 2, 100, 1] : List Int16), 0 < range.toInt := by
    simp only [List.forall_mem_cons]
    refine ⟨?_, ?_, ?_, ?_, ?_, List.forall_mem_nil _⟩ <;> decide
  exact ⟨counting, started, follows _ positive⟩

end Engine

end StoryMachine
