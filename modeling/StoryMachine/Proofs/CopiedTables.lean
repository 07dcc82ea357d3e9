import StoryMachine.Proofs.Operands
import StoryMachine.Proofs.ParseBuffers
import StoryMachine.Proofs.Stepping

/-! Copying tables. Where the two tables overlap, a copy can come upon bytes that it has written
itself. The direction is chosen so that this does not happen; only a copy that is asked to go up in
any case meets them, and then it repeats what lies between the two tables. -/

namespace StoryMachine

namespace Memory

/-- The memory after so many bytes were copied one by one, the lowest first. Each is copied as it
is by then. -/
def copiedUp (memory : Memory) (source target : Nat) : Nat → Memory
  | 0 => memory
  | count + 1 =>
    let earlier := memory.copiedUp source target count
    earlier.put (target + count) (earlier.byteAt (source + count))

variable {memory : Memory} {source target count index : Nat}

@[simp] theorem size_copiedUp (memory : Memory) (source target count : Nat) :
    (memory.copiedUp source target count).size = memory.size := by
  induction count with
  | zero => rfl
  | succ count ih => rw [copiedUp, size_put, ih]

/-- The first byte may as well be copied before all others. -/
theorem copiedUp_succ (memory : Memory) (source target count : Nat) :
    memory.copiedUp source target (count + 1) =
      (memory.put target (memory.byteAt source)).copiedUp (source + 1) (target + 1) count := by
  induction count with
  | zero => rfl
  | succ count ih =>
    rw [copiedUp, ih, copiedUp, Nat.add_right_comm source 1 count,
      Nat.add_right_comm target 1 count]
    rfl

/-- What was copied is the byte of the source as it was when its turn came. -/
theorem byteAt_copiedUp (inside : ∀ place < count, target + place < memory.size)
    (copied : index < count) :
    (memory.copiedUp source target count).byteAt (target + index) =
      (memory.copiedUp source target index).byteAt (source + index) := by
  induction count with
  | zero => cases copied
  | succ count ih =>
    have last : target + count < (memory.copiedUp source target count).size := by
      rw [size_copiedUp]
      exact inside count (Nat.lt_succ_self count)
    rw [copiedUp, byteAt_put last]
    split
    next same =>
      obtain rfl : index = count := Nat.add_left_cancel same
      rfl
    next other =>
      have earlier : index < count := by omega
      exact ih (fun place before => inside place (Nat.lt_succ_of_lt before)) earlier

end Memory

namespace Story

/-- Bytes stand at the target as they stood at the source, and no other byte has changed. -/
structure Moved (source target count : Nat) (before after : Story) : Prop where
  changed : ChangedOnly (· ∈ Region.mk target (target + count)) before after
  bytes : ∀ index < count,
    after.memory.byteAt (target + index) = before.memory.byteAt (source + index)

variable {source target : Nat}

theorem changedOnly_copiedUp (story : Story) (source target count : Nat) :
    ChangedOnly (· ∈ Region.mk target (target + count)) story
      { story with memory := story.memory.copiedUp source target count } := by
  induction count with
  | zero => exact .refl _ story
  | succ count ih =>
    refine (ih.mono ?_).trans (.put _ _ ?_ _)
    · intro address member
      rw [Region.mem_mk] at member ⊢
      omega
    · rw [Region.mem_mk]
      omega

/-- While the target is not above the source, or not yet reached by it, the next byte to copy is as
it was at first. -/
theorem byteAt_copiedUp_unread (story : Story) {index : Nat}
    (unread : target ≤ source ∨ source + index < target) :
    (story.memory.copiedUp source target index).byteAt (source + index) =
      story.memory.byteAt (source + index) := by
  apply (story.changedOnly_copiedUp source target index).elsewhere
  rw [Region.mem_mk]
  omega

/-- A copy up to a higher target repeats the bytes that lie between source and target. -/
theorem byteAt_copiedUp_repeats (story : Story) (above : source < target) {index : Nat}
    (inside : ∀ place < index, target + place < story.memory.size) :
    (story.memory.copiedUp source target index).byteAt (source + index) =
      story.memory.byteAt (source + index % (target - source)) := by
  induction index using Nat.strongRecOn with
  | ind index ih =>
    by_cases early : source + index < target
    · rw [story.byteAt_copiedUp_unread (.inr early), Nat.mod_eq_of_lt (by omega)]
    · -- The byte was written when the one that is a whole distance before it was copied.
      obtain ⟨before, rfl⟩ : ∃ before, index = before + (target - source) :=
        ⟨index - (target - source), by omega⟩
      have place : source + (before + (target - source)) = target + before := by omega
      have sooner : before < before + (target - source) := by omega
      rw [place, Memory.byteAt_copiedUp inside sooner, Nat.add_mod_right]
      exact ih before sooner fun place less => inside place (Nat.lt_trans less sooner)

end Story

namespace Update
open Story

variable {story : Story} {source target count : Nat}

/-- What is left of a copy after its first byte. -/
theorem copyByte_bind {next : Update α} (readable : source < story.memory.size)
    (writable : target < story.memory.staticMark) :
    (do
      let byte ← query (·.memory.readByte source)
      writeByte target byte
      next) story =
      next { story with memory := story.memory.put target (story.memory.byteAt source) } := by
  have read : query (·.memory.readByte source) story = .ok (story.memory.byteAt source) story :=
    query_of_ok (Memory.readByte_eq_ok_iff.mpr ⟨readable, rfl⟩)
  have written : writeByte target (story.memory.byteAt source) story =
      .ok () { story with memory := story.memory.put target (story.memory.byteAt source) } := by
    rw [writeByte_eq, if_pos writable]
  rw [bind_of_ok read, bind_of_ok written]

theorem copyUp_eq (readable : ∀ index < count, source + index < story.memory.size)
    (writable : ∀ index < count, target + index < story.memory.staticMark) :
    copyUp source target count story =
      .ok () { story with memory := story.memory.copiedUp source target count } := by
  induction count generalizing story source target with
  | zero => rfl
  | succ count ih =>
    have read : source < story.memory.size := readable 0 (Nat.succ_pos count)
    have write : target < story.memory.staticMark := writable 0 (Nat.succ_pos count)
    rw [copyUp, copyByte_bind read write, Memory.copiedUp_succ]
    apply ih
    · intro index less
      have next := readable (index + 1) (Nat.succ_lt_succ less)
      rw [Memory.size_put]
      omega
    · intro index less
      have next := writable (index + 1) (Nat.succ_lt_succ less)
      rwa [Nat.add_comm index, ← Nat.add_assoc] at next

/-- A copy down to a target that is not below the source moves the bytes: it writes above all that
it has still to read. -/
theorem copyDown_moved (above : source ≤ target)
    (readable : ∀ index < count, source + index < story.memory.size)
    (writable : ∀ index < count, target + index < story.memory.staticMark) :
    ∃ after, copyDown source target count story = .ok () after ∧
      Moved source target count story after := by
  induction count generalizing story with
  | zero => exact ⟨story, rfl, .refl _ story, fun index none => absurd none (Nat.not_lt_zero index)⟩
  | succ count ih =>
    have last := Nat.lt_succ_self count
    have inside : target + count < story.memory.size :=
      Nat.lt_of_lt_of_le (writable count last) story.memory.mark_le_size
    rw [copyDown, copyByte_bind (readable count last) (writable count last)]
    let put := story.memory.put (target + count) (story.memory.byteAt (source + count))
    obtain ⟨after, ran, moved⟩ := @ih { story with memory := put }
      (fun index less => by
        rw [Memory.size_put]
        exact readable index (Nat.lt_succ_of_lt less))
      (fun index less => writable index (Nat.lt_succ_of_lt less))
    refine ⟨after, ran, ?_, ?_⟩
    · refine (ChangedOnly.put _ story ?_ _).trans (moved.changed.mono ?_)
      · rw [Region.mem_mk]
        omega
      · intro address member
        rw [Region.mem_mk] at member ⊢
        omega
    · intro index less
      by_cases same : index = count
      · subst same
        have kept : target + index ∉ Region.mk target (target + index) := by
          rw [Region.mem_mk]
          omega
        rw [moved.changed.elsewhere _ kept, Memory.byteAt_put inside, if_pos rfl]
      · rw [moved.bytes index (by omega), Memory.byteAt_put inside, if_neg (by omega)]

/-- Unless it is asked to go up, a copy moves the bytes, however the tables overlap. -/
theorem copyTable_moved {size : Int} (used : target ≠ 0) (free : 0 ≤ size)
    (readable : ∀ index < size.natAbs, source + index < story.memory.size)
    (writable : ∀ index < size.natAbs, target + index < story.memory.staticMark) :
    ∃ after, copyTable source target size story = .ok () after ∧
      Moved source target size.natAbs story after := by
  rw [copyTable, if_neg used]
  split
  next upward =>
    have below : target ≤ source := by omega
    refine ⟨_, copyUp_eq readable writable, story.changedOnly_copiedUp .., ?_⟩
    intro index less
    have inside (place : Nat) (before : place < size.natAbs) :
        target + place < story.memory.size :=
      Nat.lt_of_lt_of_le (writable place before) story.memory.mark_le_size
    exact (Memory.byteAt_copiedUp inside less).trans (story.byteAt_copiedUp_unread (.inl below))
  next downward => exact copyDown_moved (by omega) readable writable

/-- A copy that is asked to go up takes each byte as it is when its turn comes. -/
theorem copyTable_upward {size : Int} (used : target ≠ 0) (upward : size < 0)
    (readable : ∀ index < size.natAbs, source + index < story.memory.size)
    (writable : ∀ index < size.natAbs, target + index < story.memory.staticMark) :
    ∃ after, copyTable source target size story = .ok () after ∧
      ChangedOnly (· ∈ Region.mk target (target + size.natAbs)) story after ∧
      ∀ index < size.natAbs,
        after.memory.byteAt (target + index) =
          (story.memory.copiedUp source target index).byteAt (source + index) ∧
        (target ≤ source →
          after.memory.byteAt (target + index) = story.memory.byteAt (source + index)) ∧
        (source < target → after.memory.byteAt (target + index) =
          story.memory.byteAt (source + index % (target - source))) := by
  rw [copyTable, if_neg used, if_pos (.inl upward)]
  refine ⟨_, copyUp_eq readable writable, story.changedOnly_copiedUp .., ?_⟩
  intro index less
  have inside (place : Nat) (before : place < size.natAbs) : target + place < story.memory.size :=
    Nat.lt_of_lt_of_le (writable place before) story.memory.mark_le_size
  have inTurn : (story.memory.copiedUp source target size.natAbs).byteAt (target + index) =
      (story.memory.copiedUp source target index).byteAt (source + index) :=
    Memory.byteAt_copiedUp inside less
  refine ⟨inTurn, ?_, ?_⟩
  · intro below
    exact inTurn.trans (story.byteAt_copiedUp_unread (.inl below))
  · intro above
    refine inTurn.trans (story.byteAt_copiedUp_repeats above ?_)
    exact fun place before => inside place (Nat.lt_trans before less)

/-- The target 0 makes all bytes of the source 0. -/
theorem copyTable_cleared {size : Int}
    (writable : ∀ index < size.natAbs, source + index < story.memory.staticMark) :
    ∃ after, copyTable source 0 size story = .ok () after ∧
      ChangedOnly (· ∈ Region.mk source (source + size.natAbs)) story after ∧
      ∀ index < size.natAbs, after.memory.byteAt (source + index) = 0 := by
  have length : (List.replicate size.natAbs (0 : UInt8)).length = size.natAbs :=
    List.length_replicate
  obtain ⟨after, written⟩ : ∃ after, copyTable source 0 size story = .ok () after := by
    apply writeBytes_ok
    rwa [length]
  refine ⟨after, written, ?_, ?_⟩
  · refine (changes_writeBytes fun place member => ?_).of_ok written
    rwa [length] at member
  · intro index less
    have read := writeBytes_holds written index (length.symm ▸ less)
    rw [List.getElem_replicate] at read
    exact (Memory.readByte_eq_ok_iff.mp read).2

end Update

namespace Engine

variable {η : Type} [Host η] {machine ready : Machine η} {instruction : Instruction}

theorem dispatch_copyTable {source target size : UInt16} {rest : List UInt16} {story : Story}
    (means : instruction.opcode.operation? = some .copyTable) (available : .v5 ≤ machine.version)
    (evaluated : evaluate instruction 3 machine = .ok ⟨source :: target :: size :: rest⟩ ready)
    (copied : Update.copyTable source.toNat target.toNat size.toInt16.toInt machine.story =
      .ok () story) :
    dispatch instruction machine = .ok (.goto instruction.next) { ready with story } := by
  obtain ⟨-, rfl, -⟩ := evaluate_eq_ok evaluated
  rw [dispatch_of_available _ means (decide_eq_true available), perform, copyTable,
    bind_of_ok evaluated]
  exact bind_of_ok (update_of_ok copied)

/-- A copy of a table succeeds wherever its bytes can be read and written, and changes no byte but
those it copies to. To the target 0, it clears the source. With a size that is not negative, it
moves the bytes, however the tables overlap. With a negative size it copies up, each byte as it is
when its turn comes: a target that is not above the source gets the bytes as they were, and a higher
one gets the bytes between source and target, over and over. -/
theorem copyTable_moves_bytes {source target size : UInt16} {rest : List UInt16}
    (means : instruction.opcode.operation? = some .copyTable) (available : .v5 ≤ machine.version)
    (evaluated : evaluate instruction 3 machine = .ok ⟨source :: target :: size :: rest⟩ ready)
    (readable : ∀ index < size.toInt16.toInt.natAbs,
      source.toNat + index < machine.story.memory.size)
    (writable : ∀ index < size.toInt16.toInt.natAbs,
      (if target = 0 then source else target).toNat + index < machine.story.memory.staticMark) :
    ∃ story, dispatch instruction machine = .ok (.goto instruction.next) { ready with story } ∧
      let count := size.toInt16.toInt.natAbs
      let start := (if target = 0 then source else target).toNat
      let before := machine.story.memory
      let after := story.memory
      Story.ChangedOnly (· ∈ Region.mk start (start + count)) machine.story story ∧
      ∀ index < count,
        (target = 0 → after.byteAt (source.toNat + index) = 0) ∧
        (target ≠ 0 → 0 ≤ size.toInt16.toInt →
          after.byteAt (target.toNat + index) = before.byteAt (source.toNat + index)) ∧
        (target ≠ 0 → size.toInt16.toInt < 0 →
          after.byteAt (target.toNat + index) =
            (before.copiedUp source.toNat target.toNat index).byteAt (source.toNat + index) ∧
          (target ≤ source →
            after.byteAt (target.toNat + index) = before.byteAt (source.toNat + index)) ∧
          (source < target → after.byteAt (target.toNat + index) =
            before.byteAt (source.toNat + index % (target.toNat - source.toNat)))) := by
  by_cases clears : target = 0
  · subst clears
    rw [if_pos rfl] at writable ⊢
    obtain ⟨story, copied, changed, zeros⟩ := Update.copyTable_cleared writable
    refine ⟨story, dispatch_copyTable means available evaluated copied, changed, ?_⟩
    intro index less
    exact ⟨fun _ => zeros index less, fun used => absurd rfl used, fun used => absurd rfl used⟩
  · rw [if_neg clears] at writable ⊢
    have used : target.toNat ≠ 0 := fun zero => clears (UInt16.toNat.inj zero)
    by_cases upward : size.toInt16.toInt < 0
    · obtain ⟨story, copied, changed, bytes⟩ :=
        Update.copyTable_upward used upward readable writable
      refine ⟨story, dispatch_copyTable means available evaluated copied, changed, ?_⟩
      intro index less
      exact ⟨fun zero => absurd zero clears, fun _ free => absurd upward (Int.not_lt.mpr free),
        fun _ _ => bytes index less⟩
    · obtain ⟨story, copied, moved⟩ :=
        Update.copyTable_moved used (Int.not_lt.mp upward) readable writable
      refine ⟨story, dispatch_copyTable means available evaluated copied, moved.changed, ?_⟩
      intro index less
      exact ⟨fun zero => absurd zero clears, fun _ _ => moved.bytes index less,
        fun _ negative => absurd negative upward⟩

def copying (target size : UInt16) : Instruction where
  address := 0x40
  opcode := .ofByte .v5 0xfd
  operands := [⟨.smallConstant, 0x50⟩, ⟨.largeConstant, target⟩, ⟨.largeConstant, size⟩]
  store := none
  branch := none
  next := 0x47

def tabulating : Machine MemoryStore :=
  .ofBytes .v5 [(0x50, 1), (0x51, 2), (0x52, 3), (0x53, 4), (0x54, 5), (0x55, 6)]

theorem copyTable_moves_bytes_tabulating :
    (∃ story, dispatch (copying 0x52 4) tabulating = .ok (.goto 0x47) { tabulating with story } ∧
      story.memory.byteAt 0x54 = 3 ∧ story.memory.byteAt 0x55 = 4) ∧
    (∃ story, dispatch (copying 0x52 0xfffc) tabulating =
        .ok (.goto 0x47) { tabulating with story } ∧
      story.memory.byteAt 0x54 = 1 ∧ story.memory.byteAt 0x55 = 2) ∧
    ∃ story, dispatch (copying 0 4) tabulating = .ok (.goto 0x47) { tabulating with story } ∧
      story.memory.byteAt 0x53 = 0 ∧ story.memory.byteAt 0x54 = 5 := by
  refine ⟨?_, ?_, ?_⟩
  · have evaluated : evaluate (copying 0x52 4) 3 tabulating =
        .ok ⟨[0x50, 0x52, 4]⟩ tabulating := rfl
    obtain ⟨story, copied, -, bytes⟩ := copyTable_moves_bytes (by decide) (by decide) evaluated
      (by decide +kernel) (by decide +kernel)
    have third := (bytes 2 (by decide)).2.1 (by decide) (by decide)
    have fourth := (bytes 3 (by decide)).2.1 (by decide) (by decide)
    exact ⟨story, copied, third.trans (by decide +kernel), fourth.trans (by decide +kernel)⟩
  · have evaluated : evaluate (copying 0x52 0xfffc) 3 tabulating =
        .ok ⟨[0x50, 0x52, 0xfffc]⟩ tabulating := rfl
    obtain ⟨story, copied, -, bytes⟩ := copyTable_moves_bytes (by decide) (by decide) evaluated
      (by decide +kernel) (by decide +kernel)
    have third := ((bytes 2 (by decide)).2.2 (by decide) (by decide)).2.2 (by decide)
    have fourth := ((bytes 3 (by decide)).2.2 (by decide) (by decide)).2.2 (by decide)
    exact ⟨story, copied, third.trans (by decide +kernel), fourth.trans (by decide +kernel)⟩
  · have evaluated : evaluate (copying 0 4) 3 tabulating = .ok ⟨[0x50, 0, 4]⟩ tabulating := rfl
    obtain ⟨story, copied, changed, bytes⟩ := copyTable_moves_bytes (by decide) (by decide)
      evaluated (by decide +kernel) (by decide +kernel)
    have kept := changed.elsewhere 0x54 (by decide)
    exact ⟨story, copied, (bytes 3 (by decide)).1 rfl, kept.trans (by decide +kernel)⟩

end Engine

end StoryMachine
