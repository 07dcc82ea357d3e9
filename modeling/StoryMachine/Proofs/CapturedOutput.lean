import StoryMachine.Proofs.Regions
import StoryMachine.Proofs.StaticMemory
import StoryMachine.Proofs.Stepping

/-! Output that is kept for tables. While a table is selected, what is printed is kept for the
innermost one, and the presentation hears of nothing but the selections. When the table is
deselected, it gets the text that was printed to it and none of what was printed to the tables
inside. -/

namespace StoryMachine

inductive OutputAction where
  | print (text : List Zscii)
  | newLine
  | select (table : Nat)
  | deselect
  deriving DecidableEq, Repr

namespace OutputAction

def kept? (code : Zscii) : Option Zscii :=
  if code = 0 then none else if code = 10 then some 13 else some code

/-- What is printed to the table that is `depth` tables out from the innermost one. -/
def ownText : Nat → List OutputAction → List Zscii
  | _, [] => []
  | depth, print text :: rest =>
    (if depth = 0 then text.filterMap kept? else []) ++ ownText depth rest
  | depth, newLine :: rest => (if depth = 0 then [13] else []) ++ ownText depth rest
  | depth, select _ :: rest => ownText (depth + 1) rest
  | depth, deselect :: rest => ownText (depth - 1) rest

def notice? : OutputAction → Option Notice
  | print _ | newLine => none
  | select _ => some (.outputStream 3)
  | deselect => some (.outputStream (-3))

/-- Every table that is selected is deselected again, at most `room` of them are selected at a time,
and each has room for its text below the mark. -/
inductive Nested (mark : Nat) : (room : Nat) → List OutputAction → Prop where
  | nil {room : Nat} : Nested mark room []
  | print {room : Nat} {rest : List OutputAction} (text : List Zscii)
    (others : Nested mark room rest) : Nested mark room (print text :: rest)
  | newLine {room : Nat} {rest : List OutputAction} (others : Nested mark room rest) :
    Nested mark room (newLine :: rest)
  | table {room table : Nat} {inner rest : List OutputAction} (within : Nested mark room inner)
    (fits : table + 2 + (ownText 0 inner).length ≤ mark) (others : Nested mark (room + 1) rest) :
    Nested mark (room + 1) (select table :: (inner ++ deselect :: rest))

/-- What is done between the selection of a table and its deselection is not printed outside. -/
theorem ownText_of_nested {mark room : Nat} {inner : List OutputAction}
    (nested : Nested mark room inner) (depth : Nat) (rest : List OutputAction) :
    ownText (depth + 1) (inner ++ deselect :: rest) = ownText depth rest := by
  induction nested generalizing depth rest with
  | nil => rfl
  | print text others ih =>
    rw [List.cons_append, ownText, if_neg (Nat.succ_ne_zero depth)]
    exact ih depth rest
  | newLine others ih =>
    rw [List.cons_append, ownText, if_neg (Nat.succ_ne_zero depth)]
    exact ih depth rest
  | table within fits others innerIh ih =>
    rw [List.cons_append, List.append_assoc, List.cons_append, ownText, innerIh]
    exact ih depth rest

/-- An address is in the storage of a table that is selected and deselected again. -/
def Stores (actions : List OutputAction) (address : Nat) : Prop :=
  ∃ before table inner after, actions = before ++ select table :: (inner ++ deselect :: after) ∧
    (∃ mark room, Nested mark room inner) ∧
    address ∈ Region.mk table (table + 2 + (ownText 0 inner).length)

theorem Stores.append_left {second : List OutputAction} {address : Nat}
    (stores : Stores second address) (first : List OutputAction) :
    Stores (first ++ second) address := by
  obtain ⟨before, table, inner, after, rfl, nested, member⟩ := stores
  refine ⟨first ++ before, table, inner, after, ?_, nested, member⟩
  rw [List.append_assoc]

theorem Stores.append_right {first : List OutputAction} {address : Nat}
    (stores : Stores first address) (second : List OutputAction) :
    Stores (first ++ second) address := by
  obtain ⟨before, table, inner, after, rfl, nested, member⟩ := stores
  refine ⟨before, table, inner, after ++ second, ?_, nested, member⟩
  simp only [List.append_assoc, List.cons_append]

theorem captured_eq (text : List Zscii) : captured text = text.filterMap kept? := by
  induction text with
  | nil => rfl
  | cons code rest ih =>
    rw [captured] at ih ⊢
    by_cases zero : code = 0
    · rw [List.filterMap_cons_none (by rw [kept?, if_pos zero]), ← ih]
      simp [zero]
    · by_cases feed : code = 10
      · rw [List.filterMap_cons_some (by rw [kept?, if_neg zero, if_pos feed]), ← ih]
        simp [feed, Zscii.newLine]
      · rw [List.filterMap_cons_some (by rw [kept?, if_neg zero, if_neg feed]), ← ih]
        simp [zero, feed]

end OutputAction

def Presentation.hear {η : Type} [Presentation η] (host : η) (notices : List Notice) : η :=
  notices.foldl (fun host notice => Presentation.notify notice host) host

theorem Presentation.hear_append {η : Type} [Presentation η] (host : η)
    (first second : List Notice) : hear host (first ++ second) = hear (hear host first) second :=
  List.foldl_append

def Machine.keeping {η : Type} (machine : Machine η) (capture : Capture) (outer : List Capture)
    (text : List Zscii) : Machine η :=
  { machine with captures := { capture with text := capture.text ++ text } :: outer }

namespace Update

/-- Where there is room for it, kept text is written after its length. -/
theorem writeCapture_ok {capture : Capture} {before : Story}
    (fits : capture.table + 2 + capture.text.length ≤ before.memory.staticMark) :
    ∃ after, writeCapture capture before = .ok () after ∧
      Story.ChangedOnly
        (· ∈ Region.mk capture.table (capture.table + 2 + capture.text.length)) before after ∧
      after.memory.wordAt capture.table = .ofNat capture.text.length ∧
      after.memory.Holds (capture.table + 2) (capture.text.map lowByte) := by
  have inside : capture.table + 1 < before.memory.staticMark := by omega
  have sized : capture.table + 1 < before.memory.size :=
    Nat.lt_of_lt_of_le inside before.memory.mark_le_size
  let counted : Story := { before with
    memory := before.memory.putWord capture.table (.ofNat capture.text.length) }
  have count : writeWord capture.table (.ofNat capture.text.length) before = .ok () counted := by
    rw [writeWord_eq, if_pos inside]
  obtain ⟨after, written⟩ : ∃ after, writeBytes (capture.table + 2) (capture.text.map lowByte)
      counted = .ok () after := by
    apply writeBytes_ok
    intro index within
    rw [List.length_map] at within
    change capture.table + 2 + index < before.memory.staticMark
    omega
  have first : Story.ChangedOnly
      (· ∈ Region.mk capture.table (capture.table + 2 + capture.text.length)) before counted := by
    apply (changes_writeWord ?_ ?_ _).of_ok count
    · exact Region.mem_mk.mpr (by omega)
    · exact Region.mem_mk.mpr (by omega)
  have later : Story.ChangedOnly
      (· ∈ Region.mk (capture.table + 2) (capture.table + 2 + capture.text.length))
      counted after := by
    apply (changes_writeBytes ?_).of_ok written
    intro place member
    rwa [List.length_map] at member
  refine ⟨after, ?_, first.trans (later.mono ?_), ?_, writeBytes_holds written⟩
  · rw [writeCapture, bind_of_ok count, written]
  · intro place member
    rw [Region.mem_mk] at member ⊢
    omega
  · rw [later.wordAt (by rw [Region.mem_mk]; omega) (by rw [Region.mem_mk]; omega)]
    exact Memory.wordAt_putWord sized _

end Update

namespace Engine
open OutputAction

variable {η : Type} [Presentation η] {machine : Machine η} {capture : Capture}
  {outer : List Capture}

def performOutput : OutputAction → Engine η Unit
  | .print text => print text
  | .newLine => newLine
  | .select table => selectStream 3 (some table)
  | .deselect => selectStream (-3) none

def performAll : List OutputAction → Engine η Unit
  | [] => pure ()
  | action :: rest => do
    performOutput action
    performAll rest

theorem performAll_append {first : List OutputAction} {middle : Machine η}
    (ran : performAll first machine = .ok () middle) (second : List OutputAction) :
    performAll (first ++ second) machine = performAll second middle := by
  induction first generalizing machine with
  | nil =>
    cases ran
    rfl
  | cons action rest ih =>
    obtain ⟨⟨⟩, after, performed, others⟩ := exists_of_bind_ok ran
    rw [List.cons_append, performAll, bind_of_ok performed]
    exact ih others

theorem print_captured (captures : machine.captures = capture :: outer) (text : List Zscii) :
    print text machine = .ok () (machine.keeping capture outer (text.filterMap kept?)) := by
  rw [print, emit, get_bind, captures, captured_eq]
  rfl

theorem newLine_captured (captures : machine.captures = capture :: outer) :
    newLine machine = .ok () (machine.keeping capture outer [13]) := by
  rw [newLine, emit, get_bind, captures]
  rfl

theorem select_ok (room : machine.captures.length < maxCaptures) (table : Nat) :
    selectStream 3 (some table) machine = .ok () { machine with
      captures := { table } :: machine.captures
      host := Presentation.notify (.outputStream 3) machine.host } := by
  have opened : openCapture (some table) machine =
      .ok () { machine with captures := { table } :: machine.captures } := by
    rw [openCapture, get_bind, if_neg (Nat.not_le.mpr room)]
    rfl
  change (openCapture (some table) >>= fun _ => notify (.outputStream 3)) machine = _
  rw [bind_of_ok opened]
  rfl

/-- There is no table beyond the last, and trying changes nothing. -/
theorem select_full (full : maxCaptures ≤ machine.captures.length) (table : Nat) :
    selectStream 3 (some table) machine = .error (.streamTooDeep maxCaptures) machine := by
  have refused : openCapture (some table) machine =
      .error (.streamTooDeep maxCaptures) machine := by
    rw [openCapture, get_bind, if_pos full]
    rfl
  exact bind_of_error refused

theorem deselect_ok (captures : machine.captures = capture :: outer) {story : Story}
    (written : Update.writeCapture capture machine.story = .ok () story) :
    selectStream (-3) none machine = .ok () { machine with
      captures := outer, story
      host := Presentation.notify (.outputStream (-3)) machine.host } := by
  have closed : closeCapture machine = .ok () { machine with captures := outer, story } := by
    rw [closeCapture, get_bind, captures]
    exact update_of_ok written
  change (closeCapture >>= fun _ => notify (.outputStream (-3))) machine = _
  rw [bind_of_ok closed]
  rfl

/-- With output kept for a table and room for more tables, the actions run. They add their own text
to what is kept, the presentation hears of their selections, and only the storage of the tables
changes. -/
def Accumulates (η : Type) [Presentation η] (mark room : Nat)
    (actions : List OutputAction) : Prop :=
  ∀ (machine : Machine η) (capture : Capture) (outer : List Capture),
    machine.captures = capture :: outer → machine.story.memory.staticMark = mark →
    outer.length + 1 + room ≤ maxCaptures →
    ∃ story, Story.ChangedOnly (Stores actions) machine.story story ∧
      performAll actions machine = .ok () { machine.keeping capture outer (ownText 0 actions) with
        story
        host := Presentation.hear machine.host (actions.filterMap notice?) }

/-- Between its selection and its deselection, a table gets what the actions print themselves. -/
theorem Accumulates.table {room table : Nat} {inner : List OutputAction}
    (nested : Nested machine.story.memory.staticMark room inner)
    (accumulates : Accumulates η machine.story.memory.staticMark room inner)
    (deep : machine.captures.length + 1 + room ≤ maxCaptures)
    (fits : table + 2 + (ownText 0 inner).length ≤ machine.story.memory.staticMark) :
    ∃ story,
      Story.ChangedOnly (Stores (select table :: (inner ++ [deselect]))) machine.story story ∧
      story.memory.wordAt table = .ofNat (ownText 0 inner).length ∧
      story.memory.Holds (table + 2) ((ownText 0 inner).map lowByte) ∧
      performAll (select table :: (inner ++ [deselect])) machine = .ok () { machine with
        story
        host := Presentation.hear machine.host
          ((select table :: (inner ++ [deselect])).filterMap notice?) } := by
  let chosen : Machine η := { machine with
    captures := { table } :: machine.captures
    host := Presentation.notify (.outputStream 3) machine.host }
  have selected : performOutput (select table) machine = .ok () chosen := select_ok (by omega) table
  obtain ⟨middle, inside, ran⟩ := accumulates chosen { table } machine.captures rfl rfl deep
  -- The tables inside are written before this one, so what is written here stays.
  let capture : Capture := { table, text := ownText 0 inner }
  have fits' : capture.table + 2 + capture.text.length ≤ middle.memory.staticMark :=
    inside.staticMark ▸ fits
  obtain ⟨story, written, own, count, bytes⟩ := Update.writeCapture_ok fits'
  let filled : Machine η := { chosen with
    story := middle
    captures := capture :: machine.captures
    host := Presentation.hear chosen.host (inner.filterMap notice?) }
  have filling : performAll inner chosen = .ok () filled := ran
  have captures : filled.captures = capture :: machine.captures := rfl
  have closed := deselect_ok captures written
  have heard : Presentation.hear machine.host
      ((select table :: (inner ++ [deselect])).filterMap notice?) =
      Presentation.notify (.outputStream (-3)) filled.host := by
    rw [← List.singleton_append, List.filterMap_append, List.filterMap_append,
      Presentation.hear_append, Presentation.hear_append]
    rfl
  refine ⟨story, (inside.mono ?_).trans (own.mono ?_), count, bytes, ?_⟩
  · intro place stores
    exact (stores.append_right [deselect]).append_left [select table]
  · intro place member
    exact ⟨[], table, inner, [], rfl, ⟨_, _, nested⟩, member⟩
  rw [heard, performAll, bind_of_ok selected, performAll_append filling, performAll]
  exact bind_of_ok closed

/-- What prints something and says nothing comes before actions that accumulate. -/
theorem Accumulates.cons {mark room : Nat} {action : OutputAction} {text : List Zscii}
    {rest : List OutputAction} (silent : action.notice? = none)
    (own : ownText 0 (action :: rest) = text ++ ownText 0 rest)
    (keeps : ∀ {machine : Machine η} {capture outer}, machine.captures = capture :: outer →
      performOutput action machine = .ok () (machine.keeping capture outer text))
    (accumulates : Accumulates η mark room rest) : Accumulates η mark room (action :: rest) := by
  intro machine capture outer captures sameMark deep
  obtain ⟨story, changed, ran⟩ :=
    accumulates (machine.keeping capture outer text) _ outer rfl sameMark deep
  refine ⟨story, changed.mono fun place stores => stores.append_left [action], ?_⟩
  rw [performAll, bind_of_ok (keeps captures), ran, List.filterMap_cons_none silent, own]
  simp only [Machine.keeping, List.append_assoc]

theorem accumulates_of_nested {mark room : Nat} {actions : List OutputAction}
    (nested : Nested mark room actions) : Accumulates η mark room actions := by
  induction nested with
  | nil =>
    intro machine capture outer captures sameMark deep
    refine ⟨machine.story, .refl _ _, ?_⟩
    rw [ownText, Machine.keeping, List.append_nil, ← captures]
    rfl
  | print text others ih => exact .cons rfl rfl (print_captured · text) ih
  | newLine others ih => exact .cons rfl rfl newLine_captured ih
  | @table room table inner rest within fits others innerIh ih =>
    intro machine capture outer captures sameMark deep
    subst sameMark
    have deep' : machine.captures.length + 1 + room ≤ maxCaptures := by
      rw [captures, List.length_cons]
      omega
    obtain ⟨middle, first, -, -, ran⟩ := innerIh.table within deep' fits
    let closed : Machine η := { machine with
      story := middle
      host := Presentation.hear machine.host
        ((select table :: (inner ++ [deselect])).filterMap notice?) }
    obtain ⟨story, later, ran'⟩ := ih closed capture outer captures first.staticMark deep
    -- What was kept before is as it was: the text of the table inside went there.
    have own : ownText 0 (select table :: (inner ++ deselect :: rest)) = ownText 0 rest :=
      ownText_of_nested within 0 rest
    have split : select table :: (inner ++ deselect :: rest) =
        select table :: (inner ++ [deselect]) ++ rest := by
      rw [List.cons_append, List.append_assoc, List.singleton_append]
    rw [own, split]
    refine ⟨story, (first.mono ?_).trans (later.mono ?_), ?_⟩
    · intro place stores
      exact stores.append_right rest
    · intro place stores
      exact stores.append_left _
    rw [performAll_append ran, List.filterMap_append, Presentation.hear_append]
    exact ran'

/-- Text goes to the table that it is printed to. Between the selection of a table and its
deselection, with any output and any properly nested tables in between, everything runs, and the
presentation hears of the selections only. Then the table has the codes that were printed to itself,
after their number, and nothing has changed but the storage of the tables. The number is exact where
addresses in dynamic memory are words, as they are in every story that is loaded. With 16 tables
selected, the selection of one more fails and changes nothing. -/
theorem table_gets_own_text {room table : Nat} {actions : List OutputAction}
    (nested : Nested machine.story.memory.staticMark room actions)
    (deep : machine.captures.length + 1 + room ≤ maxCaptures)
    (fits : table + 2 + (ownText 0 actions).length ≤ machine.story.memory.staticMark) :
    let whole := select table :: (actions ++ [deselect])
    (∃ story, performAll whole machine = .ok () { machine with
          story, host := Presentation.hear machine.host (whole.filterMap notice?) } ∧
        Story.ChangedOnly (Stores whole) machine.story story ∧
        story.memory.wordAt table = .ofNat (ownText 0 actions).length ∧
        (machine.story.memory.staticMark ≤ 0x10000 →
          (story.memory.wordAt table).toNat = (ownText 0 actions).length) ∧
        story.memory.Holds (table + 2) ((ownText 0 actions).map lowByte)) ∧
      ∀ (full : Machine η) (next : Nat), full.captures.length = 16 →
        ∃ error, performOutput (select next) full = .error error full ∧
          error.code = .invalidOutput := by
  intro whole
  obtain ⟨story, changed, count, bytes, ran⟩ :=
    (accumulates_of_nested nested).table nested deep fits
  refine ⟨⟨story, ran, changed, count, ?_, bytes⟩, ?_⟩
  · intro marked
    rw [count, UInt16.toNat_ofNat_of_lt' (Nat.lt_of_lt_of_le (by omega) marked)]
  · intro full next sixteen
    exact ⟨_, select_full (Nat.le_of_eq sixteen.symm) next, rfl⟩

def dictation : List OutputAction :=
  [.print [0, 10, 65], .select 0x60, .newLine, .print [66], .deselect, .newLine]

theorem table_gets_own_text_dictation :
    ownText 0 dictation = [13, 65, 13] ∧
    ∃ story, performAll (select 0x50 :: (dictation ++ [deselect])) (Machine.ofBytes .v5 []) =
        .ok () { Machine.ofBytes .v5 [] with story } ∧
      (story.memory.wordAt 0x50).toNat = 3 ∧ story.memory.Holds 0x52 [13, 65, 13] := by
  have inner : Nested 0x80 0 [.newLine, .print [66]] := .newLine (.print _ .nil)
  have nested : Nested 0x80 1 dictation :=
    .print _ (@Nested.table 0x80 0 0x60 _ _ inner (by decide) (.newLine .nil))
  obtain ⟨⟨story, ran, -, -, count, bytes⟩, -⟩ :=
    @table_gets_own_text MemoryStore _ (.ofBytes .v5 []) 1 0x50 _ nested (by decide) (by decide)
  exact ⟨by decide, story, ran, count (by decide), bytes⟩

end Engine

end StoryMachine
