import Mathlib.Algebra.GroupWithZero.Nat
import StoryMachine.Proofs.Transitions

/-! Static memory never changes. Writes stop at the static mark, and every snapshot that a machine
can go back to was taken from memory with the same static part: those kept for undo, the one for a
restart, and, if the store gives back only what it was given, those in the store. -/

namespace StoryMachine

variable {η : Type} [Host η]

/-- These snapshots were given to the store on the way from one state of a host to another. -/
inductive Given (start : η) : List Snapshot → η → Prop where
  | start : Given start [] start
  | consulted {saved : List Snapshot} {host next : η} (given : Given start saved host)
      (consulted : Consulted host next) : Given start saved next
  | saved {saved : List Snapshot} {host : η} (given : Given start saved host)
      (snapshot : Snapshot) : Given start (snapshot :: saved) (SaveStore.save snapshot host).2
  | restored {saved : List Snapshot} {host : η} (given : Given start saved host) :
      Given start saved (SaveStore.restore host).2

/-- From this state on, a store gives back only snapshots that it was given. -/
def ReturnsOnlyGiven (start : η) : Prop :=
  ∀ saved host snapshot, Given start saved host →
    (SaveStore.restore host).1 = some snapshot → snapshot ∈ saved

theorem Given.consulted_all {start host next : η} {saved : List Snapshot}
    (given : Given start saved host) (consulted : Relation.ReflTransGen Consulted host next) :
    Given start saved next := by
  induction consulted with
  | refl => exact given
  | tail _ last ih => exact .consulted ih last

theorem UndoHistory.snapshots_of_pop {history rest : UndoHistory} {snapshot : Snapshot}
    (popped : history.pop? = some (snapshot, rest)) :
    history.snapshots = snapshot :: rest.snapshots := by
  rw [pop?] at popped
  split at popped
  next snapshots =>
    cases popped
    exact snapshots
  next => cases popped

/-- The image of a snapshot agrees with a story at and past the static mark. -/
structure Snapshot.SharesStatic (loaded : Story) (snapshot : Snapshot) : Prop where
  size : snapshot.image.size = loaded.memory.size
  bytes : ∀ address, loaded.memory.staticMark ≤ address →
    imageByte snapshot.image address = loaded.memory.byteAt address

/-- The machine still has the static memory of the story it was loaded with, and so has everything
that it can go back to. -/
structure Machine.StaticKept (loaded : Story) (start : η) (machine : Machine η) : Prop where
  story : Story.SameStatic loaded machine.story
  undo : ∀ snapshot ∈ machine.undo.snapshots, snapshot.SharesStatic loaded
  initial : ∀ snapshot ∈ machine.initial, snapshot.SharesStatic loaded
  host : ∃ saved, Given start saved machine.host ∧ ∀ snapshot ∈ saved, snapshot.SharesStatic loaded

namespace Machine.StaticKept

variable {loaded : Story} {start : η} {machine : Machine η}

theorem capture (kept : StaticKept loaded start machine) (address : Nat) :
    (machine.capture address).SharesStatic loaded where
  size := kept.story.size
  bytes place static := kept.story.elsewhere place (Nat.not_lt.mpr static)

/-- Going back to an image with the same static part changes dynamic memory only. -/
theorem replace (kept : StaticKept loaded start machine) {snapshot : Snapshot}
    (shares : snapshot.SharesStatic loaded) {memory : Memory}
    (replaced : machine.story.memory.replace snapshot.image = .ok memory) (field : HeaderField)
    (value : UInt16) :
    Story.SameStatic loaded { machine.story with memory := memory.setHeaderWord field value } := by
  have image : Story.SameStatic loaded { machine.story with memory } := by
    rw [Memory.replace] at replaced
    split at replaced
    next =>
      cases replaced
      exact {
        format := kept.story.format
        size := shares.size
        staticMark := kept.story.staticMark
        fileLength := kept.story.fileLength
        pristine := kept.story.pristine
        elsewhere := fun address outside => shares.bytes address (Nat.not_lt.mp outside) }
    next => cases replaced
  exact trans_of Story.SameStatic image (.setHeaderWord { machine.story with memory } field value)

theorem restore (kept : StaticKept loaded start machine) {snapshot : Snapshot}
    (shares : snapshot.SharesStatic loaded) {after : Machine η}
    (went : machine.restore? snapshot = some after) : StaticKept loaded start after := by
  rw [Machine.restore?] at went
  split at went
  next =>
    split at went
    next => cases went
    next memory replaced =>
      cases went
      exact { kept with story := kept.replace shares replaced _ _ }
  next => cases went

theorem quiet (kept : StaticKept loaded start machine) {after : Machine η}
    (quiet : Quiet machine after) : StaticKept loaded start after where
  story := trans_of Story.SameStatic kept.story quiet.story
  undo := by
    rw [quiet.undo]
    exact kept.undo
  initial := by
    rw [quiet.initial]
    exact kept.initial
  host := by
    obtain ⟨saved, given, shares⟩ := kept.host
    exact ⟨saved, given.consulted_all quiet.host, shares⟩

theorem snapshots (kept : StaticKept loaded start machine) (faithful : ReturnsOnlyGiven start)
    {after : Machine η} (action : SnapshotAction machine after) :
    StaticKept loaded start after := by
  obtain ⟨saved, given, shares⟩ := kept.host
  cases action with
  | none => exact kept
  | saved address =>
    refine { kept with host := ⟨_, .saved given (machine.capture address), ?_⟩ }
    exact List.forall_mem_cons.mpr ⟨kept.capture address, shares⟩
  | missed => exact { kept with host := ⟨saved, .restored given, shares⟩ }
  | restored found went =>
    have asked : StaticKept loaded start
        { machine with host := (SaveStore.restore machine.host).2 } :=
      { kept with host := ⟨saved, .restored given, shares⟩ }
    exact asked.restore (shares _ (faithful _ _ _ given found)) went
  | noted address =>
    refine { kept with undo := fun snapshot member => ?_ }
    rcases List.mem_cons.mp (List.mem_of_mem_take member) with rfl | member
    · exact kept.capture address
    · exact kept.undo snapshot member
  | dropped popped =>
    refine { kept with undo := fun snapshot member => kept.undo snapshot ?_ }
    rw [UndoHistory.snapshots_of_pop popped]
    exact List.mem_cons_of_mem _ member
  | @undone snapshot undo after popped went =>
    have all := kept.undo
    rw [UndoHistory.snapshots_of_pop popped] at all
    obtain ⟨first, others⟩ := List.forall_mem_cons.mp all
    have taken : StaticKept loaded start { machine with undo } := { kept with undo := others }
    exact taken.restore first went
  | @restarted snapshot memory initial replaced =>
    have shared := kept.initial snapshot initial
    exact { kept with
      story := kept.replace shared replaced _ _
      host := ⟨saved, .consulted given (.seeded _ _), shares⟩ }

theorem transition (kept : StaticKept loaded start machine) (faithful : ReturnsOnlyGiven start)
    {after : Machine η} (moved : Transition machine after) : StaticKept loaded start after := by
  cases moved with
  | quiet silent => exact kept.quiet silent
  | snapshots action => exact kept.snapshots faithful action
  | jumped | called | returned | awaited | entered | counted | began => exact { kept with }
  | described =>
    have same := Story.SameStatic.describeInterpreter machine.story machine.version machine.config
    exact { kept with story := trans_of Story.SameStatic kept.story same }
  | started address =>
    refine { kept with initial := fun snapshot member => ?_ }
    cases member
    exact kept.capture address

theorem reaches (kept : StaticKept loaded start machine) (faithful : ReturnsOnlyGiven start)
    {after : Machine η} (reached : Reaches machine after) : StaticKept loaded start after := by
  induction reached with
  | refl => exact kept
  | tail _ last ih => exact ih.transition faithful last

end Machine.StaticKept

theorem Story.formatOf_eq_ok {image : Array UInt8} {format : Format}
    (found : formatOf image = .ok format) :
    Version.ofNumber? (imageByte image 0).toNat = some format.version := by
  rw [formatOf] at found
  split at found
  next => cases found
  next =>
    simp only [Format.ofNumber, HeaderField.address] at found
    split at found
    next version known =>
      cases found
      exact known
    next => cases found

theorem Memory.load_eq_ok {image : Array UInt8} {lengthUnit : Nat} {memory : Memory}
    (loaded : load image lengthUnit = .ok memory) :
    memory.bytes = image ∧ memory.staticMark = (imageWord image 0x0e).toNat ∧
      memory.fileLength = min ((imageWord image 0x1a).toNat * lengthUnit) image.size ∧
      memory.pristine = image.extract 0 (imageWord image 0x0e).toNat := by
  rw [load] at loaded
  split at loaded
  next =>
    dsimp only at loaded
    split at loaded
    next =>
      cases loaded
      exact ⟨rfl, rfl, rfl, rfl⟩
    next => cases loaded
  next => cases loaded

theorem Story.load_eq_ok {image : Array UInt8} {story : Story} (loaded : load image = .ok story) :
    formatOf image = .ok story.format ∧
      Memory.load image story.version.lengthUnit = .ok story.memory := by
  cases format : formatOf image with
  | error error =>
    simp only [load, format, bind, Except.bind] at loaded
    cases loaded
  | ok format' =>
    cases memory : Memory.load image format'.version.lengthUnit with
    | error error =>
      simp only [load, format, memory, bind, Except.bind] at loaded
      cases loaded
    | ok memory' =>
      simp only [load, format, memory, bind, Except.bind, pure, Except.pure] at loaded
      cases loaded
      exact ⟨rfl, memory⟩

omit [Host η] in
theorem Machine.eq_of_load {image : Array UInt8} {config : Config} {host : η} {machine : Machine η}
    (loaded : Machine.load image config host = .ok machine) :
    ∃ story, Story.load image = .ok story ∧ machine = { story, config, host } := by
  cases read : Story.load image with
  | error error =>
    simp only [Machine.load, read, bind, Except.bind] at loaded
    cases loaded
  | ok story =>
    simp only [Machine.load, read, bind, Except.bind, pure, Except.pure] at loaded
    cases loaded
    exact ⟨story, rfl, rfl⟩

theorem Machine.load_eq_ok {image : Array UInt8} {config : Config} {host : η} {machine : Machine η}
    (loaded : Machine.load image config host = .ok machine) :
    Story.load image = .ok machine.story ∧ machine.StaticKept machine.story host := by
  obtain ⟨story, read, rfl⟩ := eq_of_load loaded
  refine ⟨read, refl_of Story.SameStatic story, ?_, ?_, [], .start, ?_⟩ <;> simp

theorem sum_bytes (bytes : List UInt8) (sum : UInt16) :
    (bytes.foldl (fun sum byte => sum + byte.toUInt16) sum).toNat =
      (sum.toNat + (bytes.map UInt8.toNat).sum) % 65536 := by
  induction bytes generalizing sum with
  | nil => simp
  | cons byte rest ih =>
    rw [List.foldl_cons, ih, UInt16.toNat_add, List.map_cons, List.sum_cons, UInt8.toNat_toUInt16]
    omega

/-- With the static part and the dynamic part as they were loaded, the whole image is back. -/
theorem Memory.loadedImage_eq {memory : Memory} {image : Array UInt8}
    (size : memory.size = image.size)
    (static : ∀ address, memory.staticMark ≤ address →
      memory.byteAt address = imageByte image address)
    (pristine : memory.pristine = image.extract 0 memory.staticMark) :
    memory.loadedImage = image := by
  have inside : memory.staticMark ≤ image.size := size ▸ memory.mark_le_size
  have whole : memory.bytes.size = image.size := size
  have tail : memory.bytes.extract memory.staticMark memory.size =
      image.extract memory.staticMark image.size := by
    apply Array.ext
    · simp only [Array.size_extract, size, whole]
    · intro index within present
      rw [Array.size_extract] at within present
      have same := static (memory.staticMark + index) (Nat.le_add_right _ _)
      simp only [byteAt, imageByte, Array.getD_eq_getD_getElem?] at same
      rw [Array.getElem?_eq_getElem (by omega), Array.getElem?_eq_getElem (by omega)] at same
      rw [Array.getElem_extract, Array.getElem_extract]
      exact same
  rw [loadedImage, pristine, tail, Array.extract_append_extract, Nat.min_eq_left (Nat.zero_le _),
    Nat.max_eq_right inside, Array.extract_size]

/-- Over whole runs, whatever the input and whichever steps fail, memory keeps the size of the image
and every byte from the static mark on that the image has in its header, and the checksum is that
of the image. -/
theorem Machine.static_memory_kept {image : Array UInt8} {config : Config} {host : η}
    {machine : Machine η} (loaded : Machine.load image config host = .ok machine)
    (faithful : ReturnsOnlyGiven host) (inputs : List (Option InputResponse)) :
    let memory := (machine.afterSteps inputs).story.memory
    let length := min ((imageWord image 0x1a).toNat * machine.version.lengthUnit) image.size
    Version.ofNumber? (imageByte image 0).toNat = some machine.version ∧
      memory.size = image.size ∧
      (∀ address, (imageWord image 0x0e).toNat ≤ address →
        memory.byteAt address = imageByte image address) ∧
      memory.checksum.toNat =
        ((image.extract 0x40 length).toList.map UInt8.toNat).sum % 65536 := by
  intro memory length
  obtain ⟨load, start⟩ := Machine.load_eq_ok loaded
  obtain ⟨format, image'⟩ := Story.load_eq_ok load
  obtain ⟨bytes, mark, fileLength, pristine⟩ := Memory.load_eq_ok image'
  have kept : Story.SameStatic machine.story (machine.afterSteps inputs).story :=
    (start.reaches faithful (machine.reaches_afterSteps inputs)).story
  have size : memory.size = image.size := by
    rw [kept.size, Memory.size, bytes]
  have static : ∀ address, (imageWord image 0x0e).toNat ≤ address →
      memory.byteAt address = imageByte image address := by
    intro address above
    rw [kept.elsewhere address (by omega), Memory.byteAt, bytes]
  have mark' : memory.staticMark = (imageWord image 0x0e).toNat := kept.staticMark.trans mark
  refine ⟨Story.formatOf_eq_ok format, size, static, ?_⟩
  have back : memory.loadedImage = image := by
    apply Memory.loadedImage_eq size
    · rw [mark']
      exact static
    · rw [mark', kept.pristine, pristine]
  rw [Memory.checksum, back, kept.fileLength, fileLength, ← Array.foldl_toList, sum_bytes]
  simp [length, Machine.version, headerSize]

/-- A store by itself is a host that shows nothing and draws only zeros. -/
instance : Host MemoryStore where
  toPresentation := .ofPrint fun _ store => store
  draw store := (0, store)
  seed _ store := store

theorem returnsOnlyGiven_memoryStore : ReturnsOnlyGiven ({} : MemoryStore) := by
  have latest (saved : List Snapshot) (store : MemoryStore) (given : Given {} saved store) :
      ∀ snapshot, store.saved = some snapshot → snapshot ∈ saved := by
    induction given with
    | start => nofun
    | consulted _ consulted ih =>
      cases consulted with
      | notified notice => cases notice <;> exact ih
      | cursor | font | picture | property | mouse | menu | drawn | seeded => exact ih
    | saved _ snapshot ih =>
      intro other found
      cases found
      exact List.mem_cons_self
    | restored _ ih => exact ih
  intro saved store snapshot given found
  exact latest saved store given snapshot found

/-- A story of version 3 that overwrites the static mark in its header, and then tries to write at
the address where static memory starts. -/
def rewritingImage : Array UInt8 :=
  imageOfBytes 0x60 [(0x00, 3), (0x07, 0x40), (0x0f, 0x50), (0x1b, 0x2a), (0x40, 0xe1),
    (0x41, 0x53), (0x43, 0x07), (0x44, 0xff), (0x45, 0xff), (0x46, 0xe2), (0x47, 0x57),
    (0x48, 0x50), (0x4a, 0x12), (0x50, 0x77)]

theorem Machine.static_memory_kept_rewritingImage :
    ∃ machine : Machine MemoryStore, Machine.load rewritingImage {} {} = .ok machine ∧
      let memory := (machine.afterSteps [none, none, none]).story.memory
      memory.headerWord .staticMark = 0xffff ∧ memory.size = 0x60 ∧ memory.byteAt 0x50 = 0x77 ∧
        memory.checksum.toNat = 1355 := by
  have rewritten : (Machine.load rewritingImage {} ({} : MemoryStore)).toOption.map (fun machine =>
      (machine.afterSteps [none, none, none]).story.memory.headerWord .staticMark) =
      some 0xffff := by
    decide +kernel
  cases loaded : Machine.load rewritingImage {} ({} : MemoryStore) with
  | error error =>
    rw [loaded] at rewritten
    cases rewritten
  | ok machine =>
    rw [loaded] at rewritten
    obtain ⟨known, size, static, checksum⟩ :=
      static_memory_kept loaded returnsOnlyGiven_memoryStore [none, none, none]
    have version : Version.ofNumber? (imageByte rewritingImage 0).toNat = some .v3 := by
      decide +kernel
    rw [version, Option.some.injEq] at known
    rw [← known] at checksum
    exact ⟨machine, rfl, Option.some.inj rewritten, size.trans (by decide +kernel),
      (static 0x50 (by decide +kernel)).trans (by decide +kernel),
      checksum.trans (by decide +kernel)⟩

end StoryMachine
