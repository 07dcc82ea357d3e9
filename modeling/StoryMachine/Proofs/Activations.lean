import StoryMachine.Machine.Routines
import StoryMachine.Proofs.StoredBytes
import StoryMachine.Proofs.Variables

/-! Activations of routines: what a call makes of a routine's header and its arguments, and what
a result changes in the frame that gets it. -/

namespace StoryMachine

theorem Memory.mapM_readWord_eq_ok {memory : Memory} {places : List Nat} {words : List UInt16}
    (read : places.mapM memory.readWord = .ok words) : words = places.map memory.wordAt := by
  induction places generalizing words with
  | nil =>
    cases read
    rfl
  | cons place rest ih =>
    rw [List.mapM_cons] at read
    cases first : memory.readWord place with
    | error error =>
      simp only [first, bind, Except.bind] at read
      cases read
    | ok value =>
      cases later : rest.mapM memory.readWord with
      | error error =>
        simp only [first, later, bind, Except.bind] at read
        cases read
      | ok values =>
        simp only [first, later, bind, Except.bind, pure, Except.pure] at read
        cases read
        rw [List.map_cons, (readWord_eq_ok_iff.mp first).2, ih later]

theorem passArguments_length (arguments locals : List UInt16) :
    (passArguments arguments locals).length = locals.length := by
  simp only [passArguments, List.length_append, List.length_take, List.length_drop]
  omega

theorem passArguments_getElem? {arguments locals : List UInt16} {index : Nat} {value : UInt16}
    (present : locals[index]? = some value) :
    (passArguments arguments locals)[index]? = some (arguments.getD index value) := by
  have inside : index < locals.length := (List.getElem?_eq_some_iff.mp present).1
  rw [passArguments, List.getD_eq_getElem?_getD]
  rcases Nat.lt_or_ge index arguments.length with given | missing
  · rw [List.getElem?_append_left (by simp; omega), List.getElem?_take_of_lt inside,
      List.getElem?_eq_getElem given, Option.getD_some]
  · rw [List.getElem?_append_right (by simp; omega), List.getElem?_drop,
      List.getElem?_eq_none missing, Option.getD_none, ← present]
    congr 1
    simp only [List.length_take]
    omega

namespace Story

/-- The value that a local variable of a routine starts with, unless it is passed one. -/
def defaultLocal (story : Story) (address index : Nat) : UInt16 :=
  if story.version < .v5 then story.memory.wordAt (address + 1 + 2 * index) else 0

/-- A frame starts the routine at an address with these arguments. -/
structure Activates (story : Story) (address : Nat) (arguments : List UInt16) (frame : Frame) :
    Prop where
  entered : frame.address = address
  stack : frame.stack = []
  declared : frame.locals.length = (story.memory.byteAt address).toNat
  few : frame.locals.length ≤ maxLocals
  passed : ∀ index < frame.locals.length,
    frame.locals[index]? = some (arguments.getD index (story.defaultLocal address index))

theorem routine_eq_ok {story : Story} {address start : Nat} {locals : List UInt16}
    (found : story.routine address = .ok (start, locals)) :
    locals.length = (story.memory.byteAt address).toNat ∧ locals.length ≤ maxLocals ∧
      ∀ index < locals.length, locals[index]? = some (story.defaultLocal address index) := by
  rw [routine] at found
  cases read : story.memory.readByte address with
  | error error =>
    simp only [read, bind, Except.bind] at found
    cases found
  | ok count =>
    obtain ⟨-, rfl⟩ := Memory.readByte_eq_ok_iff.mp read
    simp only [read, bind, Except.bind, pure, Except.pure] at found
    split at found
    next => cases found
    next few =>
      split at found
      next early =>
        cases words : story.memory.readWords (address + 1)
            (story.memory.byteAt address).toNat with
        | error error =>
          simp only [words] at found
          cases found
        | ok values =>
          simp only [words] at found
          cases found
          obtain rfl := Memory.mapM_readWord_eq_ok words
          rw [List.length_map, List.length_range']
          refine ⟨rfl, Nat.le_of_not_lt few, fun index inside => ?_⟩
          rw [List.getElem?_map, List.getElem?_range' inside, Option.map_some, defaultLocal,
            if_pos early]
      next late =>
        cases found
        rw [List.length_replicate]
        refine ⟨rfl, Nat.le_of_not_lt few, fun index inside => ?_⟩
        rw [List.getElem?_replicate_of_lt inside, defaultLocal, if_neg late]

theorem activates_of_routine {story : Story} {address start : Nat} {locals : List UInt16}
    (found : story.routine address = .ok (start, locals)) (arguments : List UInt16) (frame : Frame)
    (entered : frame.address = address) (stack : frame.stack = [])
    (passed : frame.locals = passArguments arguments locals) :
    story.Activates address arguments frame := by
  obtain ⟨declared, few, defaults⟩ := routine_eq_ok found
  have length : frame.locals.length = locals.length := by rw [passed, passArguments_length]
  refine ⟨entered, stack, length.trans declared, length ▸ few, fun index inside => ?_⟩
  rw [passed]
  exact passArguments_getElem? (defaults index (length ▸ inside))

end Story

end StoryMachine
