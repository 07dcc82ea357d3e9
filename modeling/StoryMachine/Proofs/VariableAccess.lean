import StoryMachine.Proofs.Variables

/-! The laws of access to variables. Whether a variable is the stack, a local or a global, a value
that is put in its place can be seen there and leaves every other variable alone, and a value that
is written is the one that is read next. -/

namespace StoryMachine

def globalCount : Nat := 240

/-- The table of globals lies in dynamic memory, after the header. -/
structure Story.HasGlobals (story : Story) : Prop where
  afterHeader : headerSize ≤ (story.memory.headerWord .globalTable).toNat
  dynamic : (story.memory.headerWord .globalTable).toNat + globalCount * 2 ≤
    story.memory.staticMark

namespace Story.HasGlobals

variable {story : Story} (globals : story.HasGlobals)
include globals

theorem after_header (number : Nat) : headerSize ≤ story.globalAddress number :=
  Nat.le_trans globals.afterHeader (Nat.le_add_right _ _)

theorem inside (number : UInt8) :
    story.globalAddress number.toNat + 1 < story.memory.staticMark := by
  have numbered := number.toNat_lt
  have dynamic := globals.dynamic
  simp only [globalAddress, firstGlobal, globalCount] at *
  omega

theorem sized (number : UInt8) : story.globalAddress number.toNat + 1 < story.memory.size :=
  Nat.lt_of_lt_of_le (globals.inside number) story.memory.mark_le_size

end Story.HasGlobals

namespace Frame

variable {frame changed : Frame} {number : Nat} {value : UInt16}

/-- Between two states of a frame, one of its variables has got a value. Every other variable is as
it was, and so is every entry of the stack but the top, if that is the variable. -/
structure Replaced (frame changed : Frame) (number : Nat) (value : UInt16) : Prop where
  holds : changed.peekVariable number = .ok value
  others : ∀ other, other ≠ number → changed.peekVariable other = frame.peekVariable other
  height : changed.stack.length = frame.stack.length
  entries : ∀ index, ¬ (number = 0 ∧ index = 0) → changed.stack[index]? = frame.stack[index]?

theorem localValue_of_absent (absent : frame.locals.length < number) (access : LocalAccess) :
    frame.localValue access number =
      .error (.localOutOfRange access number frame.locals.length) := by
  have none : frame.locals[number - 1]? = none := List.getElem?_eq_none (by omega)
  simp only [localValue, none]

theorem localValue_of_present (some : number ≠ 0) (present : number ≤ frame.locals.length)
    (access : LocalAccess) : ∃ held, frame.localValue access number = .ok held := by
  have inside : number - 1 < frame.locals.length := by omega
  refine ⟨frame.locals[number - 1], ?_⟩
  simp only [localValue, List.getElem?_eq_getElem inside]

theorem replace_of_ne (some : number ≠ 0) (value : UInt16) :
    frame.replace number value = frame.write number value := by
  rw [replace, if_neg some]

theorem replace_stack {top : UInt16} {rest : List UInt16} (stack : frame.stack = top :: rest)
    (value : UInt16) : frame.replace 0 value = .ok { frame with stack := value :: rest } := by
  simp only [replace, pop, stack, push, ite_true, bind, Except.bind, pure, Except.pure]

theorem replace_empty (stack : frame.stack = []) (value : UInt16) :
    frame.replace 0 value = .error .emptyStackPopped := by
  simp only [replace, pop, stack, ite_true, bind, Except.bind]

/-- A value can be put in the place of a variable exactly when one can be seen there. -/
theorem exists_replace_iff_exists_peek (frame : Frame) (number : Nat) (value : UInt16) :
    (∃ changed, frame.replace number value = .ok changed) ↔
      ∃ held, frame.peekVariable number = .ok held := by
  rw [peekVariable]
  by_cases zero : number = 0
  · subst zero
    rw [if_pos rfl, peek]
    cases stack : frame.stack with
    | nil => simp [replace_empty stack]
    | cons top rest => simp [replace_stack stack]
  · rw [if_neg zero, replace_of_ne zero, write_eq]
    split
    next present => exact iff_of_true ⟨_, rfl⟩ (localValue_of_present zero present .peek)
    next absent => simp [localValue_of_absent (Nat.lt_of_not_le absent)]

theorem replaced_of_replace (ran : frame.replace number value = .ok changed) :
    Replaced frame changed number value := by
  by_cases zero : number = 0
  · subst zero
    cases stack : frame.stack with
    | nil =>
      rw [replace_empty stack] at ran
      cases ran
    | cons top rest =>
      rw [replace_stack stack] at ran
      cases ran
      refine ⟨rfl, ?_, by rw [stack]; rfl, ?_⟩
      · intro other some
        simp only [peekVariable, if_neg some, localValue]
      · intro index below
        cases index with
        | zero => exact absurd ⟨rfl, rfl⟩ below
        | succ index => rw [stack, List.getElem?_cons_succ, List.getElem?_cons_succ]
  · rw [replace_of_ne zero, write_eq] at ran
    split at ran
    next present =>
      cases ran
      have holds := peekVariable_assigned present value frame.pc
      rw [assigned, if_neg zero] at holds ⊢
      refine ⟨holds, ?_, rfl, fun _ _ => rfl⟩
      intro other different
      rw [peekVariable, peekVariable]
      split
      next => rfl
      next some =>
        have apart : number - 1 ≠ other - 1 := by omega
        simp only [localValue, List.getElem?_set_ne apart, List.length_set]
    next => cases ran

/-- What was written is read, and reading the stack takes it off again. -/
theorem read_assigned (present : number ≤ frame.locals.length) (value : UInt16) :
    (frame.assigned number value).read number =
      .ok (value, if number = 0 then frame else frame.assigned number value) := by
  by_cases zero : number = 0
  · subst zero
    rfl
  · have inside : number - 1 < frame.locals.length := by omega
    simp only [read, assigned, if_neg zero, localValue, List.getElem?_set_self inside, bind,
      Except.bind, pure, Except.pure]

end Frame

namespace Machine

open Engine

variable {η : Type}

/-- Between two states of a machine, a variable has got a value. Every other variable is as it was,
the evaluation stack is as high as it was, and no entry of it has changed but the top, if that is
the variable. -/
structure Replaced (before after : Machine η) (number : UInt8) (value : UInt16) : Prop where
  holds : peekVariable number.toNat after = .ok value after
  others : ∀ other, other ≠ number → ∀ held,
    peekVariable other.toNat after = .ok held after ↔
      peekVariable other.toNat before = .ok held before
  stack : ∃ frame changed outer, before.stack.frames = frame :: outer ∧
    after.stack.frames = changed :: outer ∧ changed.stack.length = frame.stack.length ∧
    ∀ index, ¬ (number = 0 ∧ index = 0) → changed.stack[index]? = frame.stack[index]?

def withGlobal (machine : Machine η) (number : Nat) (value : UInt16) : Machine η :=
  { machine with
    story := { machine.story with
      memory := machine.story.memory.putWord (machine.story.globalAddress number) value } }

end Machine

namespace Engine

variable {η α : Type} {machine after : Machine η} {frame : Frame} {outer : List Frame}

/-- An action fails for want of a local variable, and changes nothing. -/
def LacksLocal (action : Engine η α) (machine : Machine η) : Prop :=
  ∃ error, action machine = .error error machine ∧ error.code = .invalidLocalVariable

theorem updateTop_eq_ok_iff {change : Frame → Except Error (α × Frame)} {value : α}
    (frames : machine.stack.frames = frame :: outer) :
    updateTop change machine = .ok value after ↔
      ∃ changed, change frame = .ok (value, changed) ∧
        after = { machine with stack := ⟨changed :: outer⟩ } := by
  constructor
  · intro ran
    cases made : change frame with
    | error error =>
      rw [updateTop_of_error frames made] at ran
      cases ran
    | ok result =>
      rw [updateTop_of_ok frames made] at ran
      cases ran
      exact ⟨_, rfl, rfl⟩
  · rintro ⟨changed, made, rfl⟩
    exact updateTop_of_ok frames made

section Own

variable {number : Nat} (frames : machine.stack.frames = frame :: outer)
  (own : number < firstGlobal)
include frames own

theorem peekVariable_own_of_error {error : Error}
    (failed : frame.peekVariable number = .error error) :
    peekVariable number machine = .error error machine := by
  simp only [peekVariable, if_pos own, queryStack, CallStack.top, frames, bind, Except.bind, failed]

theorem peekVariable_own_iff {held : UInt16} :
    peekVariable number machine = .ok held machine ↔ frame.peekVariable number = .ok held := by
  simp only [peekVariable, if_pos own, queryStack, CallStack.top, frames, bind, Except.bind]
  cases frame.peekVariable number <;> simp

theorem replaceVariable_own_iff {value : UInt16} :
    replaceVariable number value machine = .ok () after ↔
      ∃ changed, frame.replace number value = .ok changed ∧
        after = { machine with stack := ⟨changed :: outer⟩ } := by
  rw [replaceVariable, if_pos own, updateTop_eq_ok_iff frames]
  cases frame.replace number value <;> simp [bind, Except.bind, pure, Except.pure]

theorem exists_replaceVariable_own_iff (value : UInt16) :
    (∃ after, replaceVariable number value machine = .ok () after) ↔
      ∃ held, peekVariable number machine = .ok held machine := by
  simp only [peekVariable_own_iff frames own, ← Frame.exists_replace_iff_exists_peek frame number
    value, replaceVariable_own_iff frames own]
  constructor
  · rintro ⟨-, changed, made, -⟩
    exact ⟨changed, made⟩
  · rintro ⟨changed, made⟩
    exact ⟨_, changed, made, rfl⟩

/-- A local that the frame does not have is neither read nor written. -/
theorem lacksLocal_own (absent : frame.locals.length < number) (value : UInt16) :
    LacksLocal (readVariable number) machine ∧ LacksLocal (peekVariable number) machine ∧
      LacksLocal (writeVariable number value) machine ∧
      LacksLocal (replaceVariable number value) machine := by
  have some : number ≠ 0 := by omega
  have beyond := Nat.not_le_of_lt absent
  have unread : readVariable number machine =
      .error (.localOutOfRange .read number frame.locals.length) machine := by
    rw [readVariable, if_pos own]
    apply updateTop_of_error frames
    rw [Frame.read, if_neg some, Frame.localValue_of_absent absent]
    rfl
  have unseen : peekVariable number machine =
      .error (.localOutOfRange .peek number frame.locals.length) machine := by
    apply peekVariable_own_of_error frames own
    rw [Frame.peekVariable, if_neg some, Frame.localValue_of_absent absent]
  have unwritten : writeVariable number value machine =
      .error (.localOutOfRange .write number frame.locals.length) machine := by
    rw [writeVariable_own frames own, if_neg beyond]
  have unreplaced : replaceVariable number value machine =
      .error (.localOutOfRange .write number frame.locals.length) machine := by
    rw [replaceVariable, if_pos own]
    apply updateTop_of_error frames
    rw [Frame.replace_of_ne some, Frame.write_eq, if_neg beyond]
    rfl
  exact ⟨⟨_, unread, rfl⟩, ⟨_, unseen, rfl⟩, ⟨_, unwritten, rfl⟩, ⟨_, unreplaced, rfl⟩⟩

/-- What is written to a variable of the frame is read next. -/
theorem readVariable_written_own (present : number ≤ frame.locals.length) (value : UInt16) :
    ∃ written, writeVariable number value machine = .ok () written ∧
      readVariable number written = .ok value (if number = 0 then machine else written) := by
  refine ⟨{ machine with stack := ⟨frame.assigned number value :: outer⟩ }, ?_, ?_⟩
  · rw [writeVariable_own frames own, if_pos present]
  · have stack : machine.stack = ⟨frame :: outer⟩ := by rw [← frames]
    rw [readVariable, if_pos own, updateTop_of_ok rfl (Frame.read_assigned present value)]
    split
    next => rw [← stack]
    next => rfl

end Own

theorem peekVariable_global_iff {number : Nat} (shared : ¬ number < firstGlobal) {held : UInt16} :
    peekVariable number machine = .ok held machine ↔ machine.story.global number = .ok held := by
  rw [peekVariable, if_neg shared, query]
  cases machine.story.global number <;> simp

section Global

variable {number : UInt8} (globals : machine.story.HasGlobals)
  (shared : ¬ number.toNat < firstGlobal)
include globals shared

theorem writeVariable_withGlobal (value : UInt16) :
    writeVariable number.toNat value machine =
      .ok () (machine.withGlobal number.toNat value) := by
  rw [writeVariable_global shared, if_pos (globals.inside number)]
  rfl

theorem global_withGlobal {other : UInt8} (shared' : ¬ other.toNat < firstGlobal) (value : UInt16) :
    (machine.withGlobal number.toNat value).story.global other.toNat =
      if other = number then .ok value else machine.story.global other.toNat := by
  rw [Machine.withGlobal, Story.global_putWord (Nat.le_of_not_lt shared)
    (Nat.le_of_not_lt shared') (globals.after_header _) (globals.sized number)]
  simp only [UInt8.toNat_inj]

theorem exists_peekVariable_global :
    ∃ held, peekVariable number.toNat machine = .ok held machine := by
  have read : machine.story.global number.toNat =
      .ok (machine.story.memory.wordAt (machine.story.globalAddress number.toNat)) :=
    Memory.readWord_eq_ok_iff.mpr ⟨globals.sized number, rfl⟩
  exact ⟨_, (peekVariable_global_iff shared).mpr read⟩

theorem readVariable_written_global (value : UInt16) :
    readVariable number.toNat (machine.withGlobal number.toNat value) =
      .ok value (machine.withGlobal number.toNat value) := by
  rw [readVariable, if_neg shared]
  apply query_of_ok
  rw [global_withGlobal globals shared shared, if_pos rfl]

theorem replaced_global (frames : machine.stack.frames = frame :: outer) (value : UInt16) :
    machine.Replaced (machine.withGlobal number.toNat value) number value := by
  refine ⟨?_, ?_, frame, frame, outer, frames, frames, rfl, fun _ _ => rfl⟩
  · rw [peekVariable_global_iff shared, global_withGlobal globals shared shared, if_pos rfl]
  · intro other different held
    by_cases own : other.toNat < firstGlobal
    · have frames' : (machine.withGlobal number.toNat value).stack.frames = frame :: outer := frames
      rw [peekVariable_own_iff frames' own, peekVariable_own_iff frames own]
    · rw [peekVariable_global_iff own, peekVariable_global_iff own,
        global_withGlobal globals shared own, if_neg different]

end Global

theorem replaced_own {number : UInt8} {value : UInt16}
    (frames : machine.stack.frames = frame :: outer) (own : number.toNat < firstGlobal)
    (ran : replaceVariable number.toNat value machine = .ok () after) :
    machine.Replaced after number value := by
  obtain ⟨changed, made, rfl⟩ := (replaceVariable_own_iff frames own).mp ran
  have replaced := Frame.replaced_of_replace made
  refine ⟨(peekVariable_own_iff rfl own).mpr replaced.holds, ?_, ?_⟩
  · intro other different held
    by_cases own' : other.toNat < firstGlobal
    · have different' : other.toNat ≠ number.toNat := fun same =>
        different (UInt8.toNat.inj same)
      rw [peekVariable_own_iff rfl own', peekVariable_own_iff frames own',
        replaced.others other.toNat different']
    · rw [peekVariable_global_iff own', peekVariable_global_iff own']
  · refine ⟨frame, changed, outer, frames, rfl, replaced.height, ?_⟩
    intro index below
    apply replaced.entries
    rintro ⟨zero, top⟩
    exact below ⟨UInt8.toNat.inj zero, top⟩

/-- The laws of access to variables, for a machine with a frame and with its globals in dynamic
memory. A value can be put in the place of a variable exactly when one can be seen there; then it
can be seen instead, and every other variable and every other entry of the evaluation stack is as it
was. A value that is written is the one that is read next, and for the stack that undoes the
writing. A local that the frame lacks can neither be read nor written in any way, and trying changes
nothing. -/
theorem variable_access_laws (frames : machine.stack.frames = frame :: outer)
    (globals : machine.story.HasGlobals) (number : UInt8) (value : UInt16) :
    ((number.toNat < firstGlobal → number.toNat ≤ frame.locals.length) →
      ((∃ after, replaceVariable number.toNat value machine = .ok () after) ↔
        ∃ held, peekVariable number.toNat machine = .ok held machine) ∧
      (∀ after, replaceVariable number.toNat value machine = .ok () after →
        machine.Replaced after number value) ∧
      ∃ written, writeVariable number.toNat value machine = .ok () written ∧
        readVariable number.toNat written =
          .ok value (if number = 0 then machine else written)) ∧
    (number.toNat < firstGlobal → frame.locals.length < number.toNat →
      LacksLocal (readVariable number.toNat) machine ∧
      LacksLocal (peekVariable number.toNat) machine ∧
      LacksLocal (writeVariable number.toNat value) machine ∧
      LacksLocal (replaceVariable number.toNat value) machine) := by
  refine ⟨fun present => ?_, fun own absent => lacksLocal_own frames own absent value⟩
  by_cases own : number.toNat < firstGlobal
  · refine ⟨exists_replaceVariable_own_iff frames own value,
      fun after ran => replaced_own frames own ran, ?_⟩
    have zero : number.toNat = 0 ↔ number = 0 := @UInt8.toNat_inj number 0
    simpa only [zero] using readVariable_written_own frames own (present own) value
  · have ran := writeVariable_withGlobal globals own value
    have same : replaceVariable number.toNat value machine =
        .ok () (machine.withGlobal number.toNat value) := by
      rw [replaceVariable_global own, ran]
    refine ⟨iff_of_true ⟨_, same⟩ (exists_peekVariable_global globals own), ?_, ?_⟩
    · intro after ran'
      cases same.symm.trans ran'
      exact replaced_global globals own frames value
    · have some : number ≠ 0 := by
        rintro rfl
        exact own (by decide)
      refine ⟨_, ran, ?_⟩
      rw [if_neg some, readVariable_written_global globals own]

/-- A machine two calls deep. Its innermost frame has two locals and two values on the stack, and
the table of globals takes up all that follows the header. -/
def stocked : Machine MemoryStore where
  story :=
    { format := ⟨.v5, 0, 0⟩
      memory :=
        { bytes := imageOfBytes 0x220 [(0x0d, 0x40), (0x21e, 0xbe), (0x21f, 0xef)]
          staticMark := 0x220
          fileLength := 0
          pristine := Array.replicate 0x220 0
          header_le_mark := by decide
          mark_le_size := by simp [imageOfBytes]
          pristine_size := by simp } }
  config := {}
  host := {}
  stack :=
    ⟨[{ kind := .procedure, address := 0x40, pc := 0x40, locals := [0x1111, 0x2222],
        argumentCount := 0, stack := [2, 1], returnAddress := 0 },
      { kind := .procedure, address := 0x40, pc := 0x40, locals := [], argumentCount := 0,
        stack := [9], returnAddress := 0 }]⟩
  status := .running

theorem variable_access_laws_stocked :
    (∃ after, replaceVariable 0 3 stocked = .ok () after ∧ peekVariable 0 after = .ok 3 after ∧
      peekVariable 2 after = .ok 0x2222 after ∧ peekVariable 255 after = .ok 0xbeef after) ∧
    (∃ after, replaceVariable 255 3 stocked = .ok () after ∧
      peekVariable 255 after = .ok 3 after ∧ peekVariable 0 after = .ok 2 after) ∧
    (∃ written, writeVariable 0 7 stocked = .ok () written ∧
      readVariable 0 written = .ok 7 stocked) ∧
    LacksLocal (replaceVariable 3 7) stocked := by
  have globals : stocked.story.HasGlobals := ⟨by decide +kernel, by decide +kernel⟩
  have laws := @variable_access_laws _ stocked _ _ rfl globals
  have top : peekVariable 0 stocked = .ok 2 stocked := rfl
  have second : peekVariable 2 stocked = .ok 0x2222 stocked := rfl
  have last : peekVariable 255 stocked = .ok 0xbeef stocked := by
    have read : stocked.story.global 255 = .ok 0xbeef := by decide +kernel
    exact (peekVariable_global_iff (by decide)).mpr read
  refine ⟨?_, ?_, ?_, ?_⟩
  · obtain ⟨replaces, replaced, -⟩ := (laws 0 3).1 (by decide)
    obtain ⟨after, ran⟩ := replaces.mpr ⟨2, top⟩
    have laid := replaced after ran
    exact ⟨after, ran, laid.holds, (laid.others 2 (by decide) _).mpr second,
      (laid.others 255 (by decide) _).mpr last⟩
  · obtain ⟨replaces, replaced, -⟩ := (laws 255 3).1 (by decide)
    obtain ⟨after, ran⟩ := replaces.mpr ⟨0xbeef, last⟩
    have laid := replaced after ran
    exact ⟨after, ran, laid.holds, (laid.others 0 (by decide) _).mpr top⟩
  · obtain ⟨-, -, written⟩ := (laws 0 7).1 (by decide)
    exact written
  · exact ((laws 3 7).2 (by decide) (by decide)).2.2.2

end Engine

end StoryMachine
