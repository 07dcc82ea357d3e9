import StoryMachine.Proofs.Operations

/-! Going back to a snapshot. It works for exactly the snapshots of the same story and size; where
it does not work it changes nothing; and no access to memory on the way can fail, so that it never
stops half way. -/

namespace StoryMachine

/-- The bytes of one image with the player's flags of another. -/
structure FlagsKept (image live after : Array UInt8) : Prop where
  size : after.size = image.size
  elsewhere : ∀ address, address ≠ 0x10 → address ≠ 0x11 →
    imageByte after address = imageByte image address
  player : ∀ bit, bit < 2 →
    (imageWord after 0x10).toNat.testBit bit = (imageWord live 0x10).toNat.testBit bit
  others : ∀ bit, 2 ≤ bit →
    (imageWord after 0x10).toNat.testBit bit = (imageWord image 0x10).toNat.testBit bit

/-- Of the second flag word, the player's bits are live and the others saved. -/
theorem testBit_flags (saved live : UInt16) (bit : Nat) :
    ((saved &&& ~~~playerFlags) ||| (live &&& playerFlags)).toNat.testBit bit =
      if bit < 2 then live.toNat.testBit bit else saved.toNat.testBit bit := by
  have mask : playerFlags.toNat = 2 ^ 2 - 1 := rfl
  have rest : (~~~playerFlags).toNat = (2 ^ 14 - 1) <<< 2 := rfl
  simp only [UInt16.toNat_or, UInt16.toNat_and, Nat.testBit_or, Nat.testBit_and, mask, rest,
    Nat.testBit_shiftLeft, Nat.testBit_two_pow_sub_one]
  split
  next player =>
    have live : ¬ 2 ≤ bit := by omega
    simp [player, live]
  next other =>
    by_cases inside : bit < 16
    · have place : bit - 2 < 14 := by omega
      simp [other, place, Nat.not_lt.mp other]
    · have small : saved.toNat < 2 ^ bit :=
        Nat.lt_of_lt_of_le saved.toNat_lt (Nat.pow_le_pow_right (by decide) (Nat.not_lt.mp inside))
      simp [other, Nat.testBit_lt_two_pow small]

namespace Memory

theorem replace_of_size {memory : Memory} {image : Array UInt8} (same : image.size = memory.size) :
    ∃ restored, memory.replace image = .ok restored ∧ restored.bytes = image ∧
      restored.staticMark = memory.staticMark ∧ restored.fileLength = memory.fileLength ∧
      restored.pristine = memory.pristine := by
  simp only [replace, same, ↓reduceDIte]
  exact ⟨_, rfl, rfl, rfl, rfl, rfl⟩

theorem replace_of_other_size {memory : Memory} {image : Array UInt8}
    (other : image.size ≠ memory.size) :
    memory.replace image = .error (.snapshotSizeMismatch image.size memory.size) := by
  simp only [replace, other, ↓reduceDIte]

theorem headerWord_inside (memory : Memory) (field : HeaderField) :
    field.address + 1 < memory.staticMark ∧ field.address + 1 < memory.size := by
  have mark := Nat.lt_of_lt_of_le field.address_lt memory.header_le_mark
  exact ⟨mark, Nat.lt_of_lt_of_le mark memory.mark_le_size⟩

/-- The header can always be read. -/
theorem readWord_header (memory : Memory) (field : HeaderField) :
    memory.readWord field.address = .ok (memory.headerWord field) :=
  readWord_eq_ok_iff.mpr ⟨(memory.headerWord_inside field).2, rfl⟩

/-- The header can always be written. -/
theorem writeWord_header (memory : Memory) (field : HeaderField) (value : UInt16) :
    memory.writeWord field.address value = .ok (memory.setHeaderWord field value) := by
  rw [writeWord, if_pos (memory.headerWord_inside field).1]
  rfl

theorem serial_eq (memory : Memory) :
    memory.storyId.serial = (List.range' 0x12 6).map memory.byteAt := by
  have header : 0x40 ≤ memory.bytes.size := Nat.le_trans memory.header_le_mark memory.mark_le_size
  simp only [storyId, slice, HeaderField.address, Array.toList_extract]
  apply List.ext_getElem
  · simp
    omega
  · intro index _ present
    rw [List.length_map, List.length_range'] at present
    have inside : 0x12 + index < memory.bytes.size := by omega
    simp [byteAt, imageByte, inside]

/-- With the player's flags put back, an image keeps the live ones and all else of its own. -/
theorem flagsKept {memory restored : Memory} {image : Array UInt8}
    (bytes : restored.bytes = image) :
    FlagsKept image memory.bytes (restored.setHeaderWord .flags2
      ((restored.headerWord .flags2 &&& ~~~playerFlags) |||
        (memory.headerWord .flags2 &&& playerFlags))).bytes := by
  have inside : 0x10 + 1 < restored.size := (restored.headerWord_inside .flags2).2
  have flags (value : UInt16) :
      imageWord (restored.setHeaderWord .flags2 value).bytes 0x10 = value :=
    wordAt_putWord inside value
  subst bytes
  constructor
  · simp [setHeaderWord, putWord, put]
  · intro address high low
    have kept := byteAt_putWord inside ((restored.headerWord .flags2 &&& ~~~playerFlags) |||
        (memory.headerWord .flags2 &&& playerFlags)) address
    rw [if_neg low, if_neg high] at kept
    exact kept
  · intro bit player
    rw [flags, testBit_flags, if_pos player]
    rfl
  · intro bit other
    rw [flags, testBit_flags, if_neg (Nat.not_lt.mpr other)]
    rfl

end Memory

/-- A snapshot is of the story in memory, and as large. -/
structure Snapshot.Fits (snapshot : Snapshot) (memory : Memory) : Prop where
  release : snapshot.story.release = memory.wordAt 0x02
  serial : snapshot.story.serial = (List.range' 0x12 6).map memory.byteAt
  checksum : snapshot.story.checksum = memory.wordAt 0x1c
  size : snapshot.image.size = memory.size

theorem Snapshot.fits_iff {snapshot : Snapshot} {memory : Memory} :
    snapshot.Fits memory ↔ snapshot.story = memory.storyId ∧ snapshot.image.size = memory.size := by
  constructor
  · rintro ⟨release, serial, checksum, size⟩
    refine ⟨?_, size⟩
    rw [← memory.serial_eq] at serial
    calc snapshot.story
      _ = ⟨snapshot.story.release, snapshot.story.serial, snapshot.story.checksum⟩ := rfl
      _ = memory.storyId := by rw [release, serial, checksum]; rfl
  · rintro ⟨same, size⟩
    refine ⟨?_, ?_, ?_, size⟩
    · rw [same]
      rfl
    · rw [same, Memory.serial_eq]
    · rw [same]
      rfl

structure Memory.RestoredFrom (image : Array UInt8) (live after : Memory) : Prop where
  bytes : FlagsKept image live.bytes after.bytes
  staticMark : after.staticMark = live.staticMark
  fileLength : after.fileLength = live.fileLength
  pristine : after.pristine = live.pristine

namespace Machine

variable {η : Type}

theorem restore?_of_replaced {machine : Machine η} {snapshot : Snapshot} {restored : Memory}
    (same : snapshot.story = machine.story.memory.storyId)
    (replaced : machine.story.memory.replace snapshot.image = .ok restored) :
    machine.restore? snapshot = some { machine with
      story := { machine.story with
        memory := restored.setHeaderWord .flags2
          ((restored.headerWord .flags2 &&& ~~~playerFlags) |||
            (machine.story.memory.headerWord .flags2 &&& playerFlags)) }
      stack := snapshot.stack
      captures := []
      pending := none } := by
  simp only [restore?, same, replaced, ↓reduceIte]

theorem restore?_of_fits {machine : Machine η} {snapshot : Snapshot}
    (fits : snapshot.Fits machine.story.memory) :
    ∃ memory, Memory.RestoredFrom snapshot.image machine.story.memory memory ∧
      machine.restore? snapshot = some { machine with
        story := { machine.story with memory }
        stack := snapshot.stack
        captures := []
        pending := none } := by
  obtain ⟨same, size⟩ := Snapshot.fits_iff.mp fits
  obtain ⟨restored, replaced, bytes, staticMark, fileLength, pristine⟩ :=
    Memory.replace_of_size size
  exact ⟨_, ⟨Memory.flagsKept bytes, staticMark, fileLength, pristine⟩,
    restore?_of_replaced same replaced⟩

theorem restore?_of_not_fits {machine : Machine η} {snapshot : Snapshot}
    (misfit : ¬ snapshot.Fits machine.story.memory) : machine.restore? snapshot = none := by
  rw [Snapshot.fits_iff] at misfit
  unfold restore?
  dsimp only
  split
  next same =>
    have other : snapshot.image.size ≠ machine.story.memory.size := fun size => misfit ⟨same, size⟩
    rw [Memory.replace_of_other_size other]
  next => rfl

theorem restore?_eq_some {machine after : Machine η} {snapshot : Snapshot}
    (went : machine.restore? snapshot = some after) :
    snapshot.Fits machine.story.memory ∧ ∃ memory,
      Memory.RestoredFrom snapshot.image machine.story.memory memory ∧
        after = { machine with
          story := { machine.story with memory }
          stack := snapshot.stack
          captures := []
          pending := none } := by
  by_cases fits : snapshot.Fits machine.story.memory
  · obtain ⟨memory, restored, other⟩ := restore?_of_fits fits
    rw [other, Option.some.injEq] at went
    exact ⟨fits, memory, restored, went.symm⟩
  · rw [restore?_of_not_fits fits] at went
    cases went

end Machine

namespace Engine

variable {η : Type}

/-- Go back to a snapshot by accesses to memory that are all checked. -/
def restoreChecked (snapshot : Snapshot) : Engine η Bool := do
  let release ← query (·.memory.readWord HeaderField.release.address)
  let serial := ((← get).story.memory.slice HeaderField.serial.address 6).toList
  let checksum ← query (·.memory.readWord HeaderField.checksum.address)
  if snapshot.story ≠ ⟨release, serial, checksum⟩ then
    return false
  if snapshot.image.size ≠ (← get).story.memory.size then
    return false
  let live ← query (·.memory.readWord HeaderField.flags2.address)
  update (Update.modifyMemory (·.replace snapshot.image))
  let saved ← query (·.memory.readWord HeaderField.flags2.address)
  update (Update.writeWord HeaderField.flags2.address
    ((saved &&& ~~~playerFlags) ||| (live &&& playerFlags)))
  modify fun machine =>
    { machine with stack := snapshot.stack, captures := [], pending := none }
  return true

theorem query_header (field : HeaderField) (machine : Machine η) :
    query (·.memory.readWord field.address) machine =
      .ok (machine.story.memory.headerWord field) machine := by
  simp only [query, Memory.readWord_header]

/-- None of the checks fails. -/
theorem restoreChecked_eq (snapshot : Snapshot) (machine : Machine η) :
    restoreChecked snapshot machine = restoreSnapshot snapshot machine := by
  unfold restoreChecked
  rw [bind_of_ok (query_header .release machine), get_bind,
    bind_of_ok (query_header .checksum machine)]
  split
  next other =>
    have misfit : ¬ snapshot.Fits machine.story.memory := fun fits =>
      other (Snapshot.fits_iff.mp fits).1
    rw [restoreSnapshot_of_none (Machine.restore?_of_not_fits misfit)]
    rfl
  next same =>
    rw [get_bind]
    split
    next other =>
      have misfit : ¬ snapshot.Fits machine.story.memory := fun fits => other fits.size
      rw [restoreSnapshot_of_none (Machine.restore?_of_not_fits misfit)]
      rfl
    next size =>
      rw [Decidable.not_not] at same size
      obtain ⟨restored, replaced, -⟩ := Memory.replace_of_size size
      have placed : update (Update.modifyMemory (·.replace snapshot.image)) machine =
          .ok () { machine with story := { machine.story with memory := restored } } := by
        simp only [update, Update.modifyMemory, replaced]
      rw [bind_of_ok (query_header .flags2 machine), bind_of_ok placed,
        bind_of_ok (query_header .flags2 _),
        restoreSnapshot_of_some (Machine.restore?_of_replaced same replaced)]
      simp only [Update.writeWord, Memory.writeWord_header]
      rfl

/-- Going back to a snapshot works for exactly those that fit, and does all of it or nothing. Were
its accesses to memory checked, the outcome would be the same, so none of the checks can fail. -/
theorem restoreSnapshot_all_or_nothing (snapshot : Snapshot) (machine : Machine η) :
    restoreChecked snapshot machine = restoreSnapshot snapshot machine ∧
      ∃ success after, restoreSnapshot snapshot machine = .ok success after ∧
        (success = true ↔ snapshot.Fits machine.story.memory) ∧
        (success = false → after = machine) ∧
        (success = true → ∃ memory,
          Memory.RestoredFrom snapshot.image machine.story.memory memory ∧
            after = { machine with
              story := { machine.story with memory }
              stack := snapshot.stack
              captures := []
              pending := none }) := by
  refine ⟨restoreChecked_eq snapshot machine, ?_⟩
  by_cases fits : snapshot.Fits machine.story.memory
  · obtain ⟨memory, restored, went⟩ := Machine.restore?_of_fits fits
    refine ⟨true, _, restoreSnapshot_of_some went, ?_⟩
    exact ⟨⟨fun _ => fits, fun _ => rfl⟩, nofun, fun _ => ⟨memory, restored, rfl⟩⟩
  · have refused := Machine.restore?_of_not_fits fits
    refine ⟨false, machine, restoreSnapshot_of_none refused, ?_⟩
    exact ⟨⟨nofun, fun claimed => absurd claimed fits⟩, fun _ => rfl, nofun⟩

end Engine

end StoryMachine
