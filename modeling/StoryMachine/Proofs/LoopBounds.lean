import Mathlib.Data.Nat.Size
import StoryMachine.Proofs.DictionaryLookup
import StoryMachine.Proofs.PendingReads
import StoryMachine.Proofs.PropertyLists
import StoryMachine.Proofs.Resuming

/-! No story can keep a step from ending. Several loops are driven by what the story has in memory:
they look for the end of a text or a table, halve or walk a dictionary, or follow links between
objects. Each is restated here turn by turn, and cut off after so many turns. With a limit that
depends only on the size of memory and on the version, none is ever cut off, whatever the memory
holds. -/

namespace StoryMachine

/-- A computation that may be cut off, which is `none`. -/
abbrev Limited := ExceptT Error Option

namespace Limited

variable {α β : Type}

def cutOff : Limited α :=
  ExceptT.mk none

def settled (result : Except Error α) : Limited α :=
  ExceptT.mk (some result)

@[simp]
theorem settled_ok_bind (value : α) (next : α → Limited β) :
    (settled (.ok value) >>= next) = next value := rfl

@[simp]
theorem settled_error_bind (error : Error) (next : α → Limited β) :
    (settled (.error error) >>= next) = settled (.error error) := rfl

/-- If what follows a settled computation is settled, so is the whole. -/
theorem settled_bind {result : Except Error α} {next : α → Limited β} {rest : α → Except Error β}
    (follows : ∀ value, result = .ok value → next value = settled (rest value)) :
    (settled result >>= next) = settled (result >>= rest) := by
  cases result with
  | error error => rfl
  | ok value => exact follows value rfl

end Limited

open Limited (settled)

inductive Turn (σ α : Type) where
  | again (state : σ)
  | done (result : α)

abbrev Loop (σ α : Type) := σ → Limited (Turn σ α)

namespace Loop

variable {σ α : Type}

/-- Run a loop, but cut it off when it has had so many turns and wants another. -/
def run (loop : Loop σ α) : (turns : Nat) → σ → Limited α
  | 0, _ => Limited.cutOff
  | turns + 1, state => do
    match ← loop state with
    | .again next => loop.run turns next
    | .done result => return result

/-- From a state, a turn of a loop does the same as a function from states to results. If another
turn follows, it has less left to do. -/
inductive Follows (loop : Loop σ α) (result : σ → Except Error α) (rank : σ → Nat) (state : σ) :
    Prop where
  | failed (error : Error) (turn : loop state = settled (.error error))
      (same : result state = .error error)
  | ended (value : α) (turn : loop state = settled (.ok (.done value)))
      (same : result state = .ok value)
  | went (next : σ) (turn : loop state = settled (.ok (.again next)))
      (same : result state = result next) (less : rank next < rank state)

/-- A loop ends with what the function gives, if it has more turns than its rank. -/
theorem run_eq {loop : Loop σ α} {result : σ → Except Error α} {rank : σ → Nat}
    (follows : ∀ state, loop.Follows result rank state) {turns : Nat} {state : σ}
    (enough : rank state < turns) : loop.run turns state = settled (result state) := by
  induction turns generalizing state with
  | zero => exact absurd enough (Nat.not_lt_zero _)
  | succ turns ih =>
    rw [run]
    cases follows state with
    | failed error turn same =>
      rw [turn, same]
      rfl
    | ended value turn same =>
      rw [turn, same]
      rfl
    | went next turn same less =>
      rw [turn, same]
      exact ih (by omega)

end Loop

/-! Looking for the end of something in memory. -/

section Collecting

variable {β : Type}

/-- Collect items up to one that ends them, of which something may belong to them. -/
def collecting (read : Nat → Except Error β) (width : Nat) (ends : β → Bool) (last : β → List β) :
    Loop (Nat × List β) (List β) := fun (address, found) => do
  let item ← settled (read address)
  return if ends item then .done (found ++ last item)
    else .again (address + width, found ++ [item])

def Collects (read : Nat → Except Error β) (width : Nat) (ends : β → Bool) (last : β → List β)
    (collect : Nat → Except Error (List β)) : Prop :=
  ∀ address, collect address = do
    let item ← read address
    if ends item then return last item else return item :: (← collect (address + width))

theorem collecting_follows {read : Nat → Except Error β} {width : Nat} {ends : β → Bool}
    {last : β → List β} {collect : Nat → Except Error (List β)} {size : Nat}
    (collects : Collects read width ends last collect) (wide : 0 < width)
    (inside : ∀ address item, read address = .ok item → address < size)
    (state : Nat × List β) : (collecting read width ends last).Follows
      (fun state => (state.2 ++ ·) <$> collect state.1) (fun state => size - state.1) state := by
  obtain ⟨address, found⟩ := state
  cases taken : read address with
  | error error =>
    refine .failed error ?_ ?_
    · simp only [collecting, taken, Limited.settled_error_bind]
    · simp only [collects address, taken]
      rfl
  | ok item =>
    have within := inside address item taken
    cases stop : ends item with
    | true =>
      refine .ended (found ++ last item) ?_ ?_
      · simp only [collecting, taken, Limited.settled_ok_bind, stop]
        rfl
      · simp only [collects address, taken, bind, Except.bind, stop]
        rfl
    | false =>
      refine .went (address + width, found ++ [item]) ?_ ?_ ?_
      · simp only [collecting, taken, Limited.settled_ok_bind, stop]
        rfl
      · simp only [collects address, taken, bind, Except.bind, stop]
        cases collect (address + width) with
        | error error => rfl
        | ok rest => simp [Functor.map, Except.map, pure, Except.pure]
      · simp only
        omega

/-- A loop that collects items ends once there are more turns than bytes. -/
theorem collecting_eq {read : Nat → Except Error β} {width : Nat} {ends : β → Bool}
    {last : β → List β} {collect : Nat → Except Error (List β)} {size turns : Nat}
    (collects : Collects read width ends last collect) (wide : 0 < width)
    (inside : ∀ address item, read address = .ok item → address < size) (enough : size < turns)
    (address : Nat) :
    (collecting read width ends last).run turns (address, []) = settled (collect address) := by
  have enough : size - address < turns := Nat.lt_of_le_of_lt (Nat.sub_le size address) enough
  rw [Loop.run_eq (collecting_follows collects wide inside) enough]
  cases collect address <;> rfl

end Collecting

namespace Memory

variable {memory : Memory}

theorem header_le_size (memory : Memory) : 0x40 ≤ memory.size :=
  Nat.le_trans memory.header_le_mark memory.mark_le_size

theorem lt_of_readByte {address : Nat} {byte : UInt8} (read : memory.readByte address = .ok byte) :
    address < memory.size :=
  (readByte_eq_ok_iff.mp read).1

theorem lt_of_readWord {address : Nat} {word : UInt16} (read : memory.readWord address = .ok word) :
    address < memory.size :=
  Nat.lt_of_succ_lt (readWord_eq_ok_iff.mp read).1

theorem le_of_textEnd {address stop : Nat} (found : memory.textEnd address = .ok stop) :
    address + 2 ≤ stop ∧ stop ≤ memory.size := by
  fun_induction textEnd memory address with
  | case1 address inside last =>
    cases found
    omega
  | case2 address inside last ih =>
    have later := ih found
    omega
  | case3 => cases found

theorem le_of_zeroWordFrom {address stop : Nat} (found : memory.zeroWordFrom address = .ok stop) :
    address ≤ stop := by
  fun_induction zeroWordFrom memory address with
  | case1 address =>
    cases found
    exact Nat.le_refl _
  | case2 address inside zero ih =>
    have later := ih found
    omega
  | case3 => cases found

theorem le_of_zeroByteFrom {address stop : Nat} (found : memory.zeroByteFrom address = .ok stop) :
    address ≤ stop := by
  fun_induction zeroByteFrom memory address with
  | case1 address =>
    cases found
    exact Nat.le_refl _
  | case2 address inside zero ih =>
    have later := ih found
    omega
  | case3 => cases found

/-- The text at an address is a word and the rest of the text, up to a word that is marked. -/
theorem collects_textWords (memory : Memory) :
    Collects memory.readWord 2 ZString.isLast (fun word => [word]) memory.textWords := by
  intro address
  rw [textWords, textEnd, readWord]
  split
  next inside =>
    cases last : ZString.isLast (memory.wordAt address) with
    | true =>
      simp [last, bind, Except.bind, pure, Except.pure]
    | false =>
      simp only [last, bind, Except.bind, textWords]
      cases found : memory.textEnd (address + 2) with
      | error error => rfl
      | ok stop =>
        have later := (le_of_textEnd found).1
        have count : (stop - address) / 2 = (stop - (address + 2)) / 2 + 1 := by omega
        simp [count, List.range'_succ, pure, Except.pure]
  next => rfl

theorem collects_wordsUntilZero (memory : Memory) :
    Collects memory.readWord 2 (· = 0) (fun _ => []) memory.wordsUntilZero := by
  intro address
  rw [wordsUntilZero, zeroWordFrom, readWord]
  split
  next inside =>
    by_cases zero : memory.wordAt address = 0
    · simp [zero, bind, Except.bind, pure, Except.pure]
    · simp only [zero, bind, Except.bind, wordsUntilZero, decide_false]
      cases found : memory.zeroWordFrom (address + 2) with
      | error error => rfl
      | ok stop =>
        have later := le_of_zeroWordFrom found
        have count : (stop - address) / 2 = (stop - (address + 2)) / 2 + 1 := by omega
        simp [count, List.range'_succ, pure, Except.pure]
  next => rfl

def bytesBeforeZero (memory : Memory) (address : Nat) : Except Error (List UInt8) := do
  let stop ← memory.zeroByteFrom address
  return (List.range' address (stop - address)).map memory.byteAt

theorem collects_bytesBeforeZero (memory : Memory) :
    Collects memory.readByte 1 (· = 0) (fun _ => []) memory.bytesBeforeZero := by
  intro address
  rw [bytesBeforeZero, zeroByteFrom, readByte]
  split
  next inside =>
    by_cases zero : memory.byteAt address = 0
    · simp [zero, bind, Except.bind, pure, Except.pure]
    · simp only [zero, bind, Except.bind, bytesBeforeZero, decide_false]
      cases found : memory.zeroByteFrom (address + 1) with
      | error error => rfl
      | ok stop =>
        have later := le_of_zeroByteFrom found
        have count : stop - address = stop - (address + 1) + 1 := by omega
        simp [count, List.range'_succ, pure, Except.pure]
  next => rfl

def skipLoop (memory : Memory) : Loop Nat Nat := fun address => do
  let word ← settled (memory.readWord address)
  return if ZString.isLast word then .done (address + 2) else .again (address + 2)

theorem skipLoop_follows (memory : Memory) (address : Nat) :
    memory.skipLoop.Follows memory.textEnd (memory.size - ·) address := by
  by_cases inside : address + 1 < memory.size
  · have read : memory.readWord address = .ok (memory.wordAt address) :=
      readWord_eq_ok_iff.mpr ⟨inside, rfl⟩
    cases last : ZString.isLast (memory.wordAt address) with
    | true =>
      refine .ended (address + 2) ?_ ?_
      · simp only [skipLoop, read, Limited.settled_ok_bind, last]
        rfl
      · rw [textEnd]
        simp only [inside, last, ↓reduceIte]
    | false =>
      refine .went (address + 2) ?_ ?_ ?_
      · simp only [skipLoop, read, Limited.settled_ok_bind, last]
        rfl
      · rw [textEnd]
        simp [inside, last]
      · omega
  · refine .failed (.wordBeyondMemory address (memory.size - 1)) ?_ ?_
    · simp only [skipLoop, readWord, inside, ↓reduceIte, Limited.settled_error_bind]
    · rw [textEnd]
      simp [inside]

def textLoop (memory : Memory) : Loop (Nat × List UInt16) (List UInt16) :=
  collecting memory.readWord 2 ZString.isLast fun word => [word]

theorem textLoop_eq {memory : Memory} {turns : Nat} (enough : memory.size < turns) (address : Nat) :
    memory.textLoop.run turns (address, []) = settled (memory.textWords address) :=
  collecting_eq memory.collects_textWords (by decide) (fun _ _ => lt_of_readWord) enough address

def pictureLoop (memory : Memory) : Loop (Nat × List UInt16) (List UInt16) :=
  collecting memory.readWord 2 (· = 0) fun _ => []

theorem pictureLoop_eq {memory : Memory} {turns : Nat} (enough : memory.size < turns)
    (address : Nat) :
    memory.pictureLoop.run turns (address, []) = settled (memory.wordsUntilZero address) :=
  collecting_eq memory.collects_wordsUntilZero (by decide) (fun _ _ => lt_of_readWord) enough
    address

def terminatorLoop (memory : Memory) : Loop (Nat × List UInt8) (List UInt8) :=
  collecting memory.readByte 1 (· = 0) fun _ => []

theorem terminatorLoop_eq {memory : Memory} {turns : Nat} (enough : memory.size < turns)
    (address : Nat) :
    memory.terminatorLoop.run turns (address, []) = settled (memory.bytesBeforeZero address) :=
  collecting_eq memory.collects_bytesBeforeZero (by decide) (fun _ _ => lt_of_readByte) enough
    address

def bytesLoop (memory : Memory) : Loop (Nat × Nat × List UInt8) (List UInt8)
  | (_, 0, found) => return .done found
  | (address, count + 1, found) => do
    let byte ← settled (memory.readByte address)
    return .again (address + 1, count, found ++ [byte])

theorem bytesLoop_follows (memory : Memory) (state : Nat × Nat × List UInt8) :
    memory.bytesLoop.Follows (fun state => (state.2.2 ++ ·) <$> memory.readBytes state.1 state.2.1)
      (fun state => memory.size - state.1) state := by
  obtain ⟨address, count, found⟩ := state
  cases count with
  | zero => exact .ended found rfl (congrArg Except.ok (List.append_nil found))
  | succ count =>
    cases read : memory.readByte address with
    | error error =>
      refine .failed error ?_ ?_
      · simp only [bytesLoop, read, Limited.settled_error_bind]
      · simp only [readBytes, List.range'_succ, List.mapM_cons, read]
        rfl
    | ok byte =>
      have inside := lt_of_readByte read
      refine .went (address + 1, count, found ++ [byte]) ?_ ?_ ?_
      · simp only [bytesLoop, read, Limited.settled_ok_bind]
        rfl
      · simp only [readBytes, List.range'_succ, List.mapM_cons, read]
        cases (List.range' (address + 1) count).mapM memory.readByte with
        | error error => rfl
        | ok rest => simp [Functor.map, Except.map, bind, Except.bind, pure, Except.pure]
      · simp only
        omega

theorem bytesLoop_eq {turns : Nat} (enough : memory.size < turns) (address count : Nat) :
    memory.bytesLoop.run turns (address, count, []) = settled (memory.readBytes address count) := by
  have enough : memory.size - address < turns := Nat.lt_of_le_of_lt (Nat.sub_le _ _) enough
  rw [Loop.run_eq memory.bytesLoop_follows enough]
  cases memory.readBytes address count <;> rfl

/-- The lines of a formatted table, one after the other, with so many turns for the characters of
each. -/
def formLoop (memory : Memory) (turns : Nat) :
    Loop (Nat × List (List Zscii)) (List (List Zscii) × Option Error) := fun (address, lines) =>
  tryCatchThe Error
    (do
      let length ← settled (memory.readWord address)
      if length = 0 then
        return .done (lines, none)
      let characters ← memory.bytesLoop.run turns (address + 2, length.toNat, [])
      return .again (address + 2 + length.toNat, lines ++ [characters.map UInt8.toUInt16]))
    fun error => return .done (lines, some error)

def formAfter (memory : Memory) (state : Nat × List (List Zscii)) :
    List (List Zscii) × Option Error :=
  (state.2 ++ (memory.formLines state.1).1, (memory.formLines state.1).2)

theorem formLoop_follows {turns : Nat} (enough : memory.size < turns)
    (state : Nat × List (List Zscii)) :
    (memory.formLoop turns).Follows (fun state => .ok (memory.formAfter state))
      (fun state => memory.size - state.1) state := by
  obtain ⟨address, lines⟩ := state
  by_cases inside : address + 1 < memory.size
  · have read : memory.readWord address = .ok (memory.wordAt address) :=
      readWord_eq_ok_iff.mpr ⟨inside, rfl⟩
    by_cases zero : memory.wordAt address = 0
    · refine .ended (lines, none) ?_ ?_
      · simp only [formLoop, read, Limited.settled_ok_bind, zero, ↓reduceIte]
        rfl
      · rw [formAfter, formLines]
        simp [inside, zero]
    · have length : (memory.wordAt address).toNat ≠ 0 := fun none => zero (UInt16.toNat.inj none)
      cases taken : memory.readBytes (address + 2) (memory.wordAt address).toNat with
      | error error =>
        refine .ended (lines, some error) ?_ ?_
        · simp only [formLoop, read, Limited.settled_ok_bind, zero, ↓reduceIte,
            bytesLoop_eq enough, taken]
          rfl
        · rw [formAfter, formLines]
          simp [inside, length, taken]
      | ok characters =>
        refine .went (address + 2 + (memory.wordAt address).toNat,
          lines ++ [characters.map UInt8.toUInt16]) ?_ ?_ ?_
        · simp only [formLoop, read, Limited.settled_ok_bind, zero, ↓reduceIte,
            bytesLoop_eq enough, taken]
          rfl
        · rw [formAfter, formLines]
          simp [inside, length, taken, formAfter]
        · simp only
          omega
  · refine .ended (lines, some (.wordBeyondMemory address (memory.size - 1))) ?_ ?_
    · simp only [formLoop, readWord, inside, ↓reduceIte]
      rfl
    · rw [formAfter, formLines]
      simp [inside]

/-- A text fills the memory it is in at most. -/
theorem textWords_length {address : Nat} {words : List UInt16}
    (found : memory.textWords address = .ok words) : 2 * words.length ≤ memory.size := by
  obtain ⟨stop, stopped, found⟩ := exists_of_bind_eq_ok found
  cases found
  have bound := le_of_textEnd stopped
  simp only [List.length_map, List.length_range']
  omega

theorem readWords_length {address count : Nat} {words : List UInt16}
    (read : memory.readWords address count = .ok words) :
    words = [] ∨ address + 2 * words.length ≤ memory.size := by
  induction count generalizing address words with
  | zero =>
    cases read
    exact .inl rfl
  | succ count ih =>
    rw [readWords, List.range'_succ, List.mapM_cons] at read
    obtain ⟨word, first, read⟩ := exists_of_bind_eq_ok read
    obtain ⟨rest, later, read⟩ := exists_of_bind_eq_ok read
    cases read
    have inside := (readWord_eq_ok_iff.mp first).1
    rcases ih later with rfl | bound
    · simp only [List.length_singleton]
      omega
    · simp only [List.length_cons]
      omega

end Memory

/-! Decoding text. -/

namespace Decoding

variable {alphabet : Alphabet} {scheme : ShiftScheme}

/-- Take a z-character, where the text of an abbreviation may be cut off. -/
def takeWithin (alphabet : Alphabet) (scheme : ShiftScheme)
    (expand : ZChar → ZChar → Limited Decoded) (state : State) (zchar : ZChar) : Limited State :=
  match state.expecting with
  | .abbreviation bank => do
    let text ← expand bank zchar
    return { state with expecting := .character }.expand text
  | _ => settled (take alphabet scheme (fun _ _ => .ok {}) state zchar)

theorem takeWithin_eq {limited : ZChar → ZChar → Limited Decoded}
    {expand : ZChar → ZChar → Except Error Decoded}
    (expands : ∀ bank index, limited bank index = settled (expand bank index)) (state : State)
    (zchar : ZChar) :
    takeWithin alphabet scheme limited state zchar =
      settled (take alphabet scheme expand state zchar) := by
  unfold takeWithin take
  cases state.expecting with
  | abbreviation bank =>
    simp only [expands]
    exact Limited.settled_bind fun text _ => rfl
  | character | escape | escapeLow => rfl

def loop (alphabet : Alphabet) (scheme : ShiftScheme) (expand : ZChar → ZChar → Limited Decoded) :
    Loop (List ZChar × State) Decoded
  | ([], state) => settled (.ok (.done state.finish))
  | (zchar :: rest, state) => do
    let state ← takeWithin alphabet scheme expand state zchar
    return .again (rest, state)

theorem loop_follows {limited : ZChar → ZChar → Limited Decoded}
    {expand : ZChar → ZChar → Except Error Decoded}
    (expands : ∀ bank index, limited bank index = settled (expand bank index))
    (state : List ZChar × State) : (loop alphabet scheme limited).Follows
      (fun state => State.finish <$> state.1.foldlM (take alphabet scheme expand) state.2)
      (fun state => state.1.length) state := by
  obtain ⟨zchars, state⟩ := state
  cases zchars with
  | nil => exact .ended state.finish rfl rfl
  | cons zchar rest =>
    cases taken : take alphabet scheme expand state zchar with
    | error error =>
      refine .failed error ?_ ?_
      · simp only [loop, takeWithin_eq expands, taken, Limited.settled_error_bind]
      · simp only [List.foldlM_cons, taken]
        rfl
    | ok next =>
      refine .went (rest, next) ?_ ?_ ?_
      · simp only [loop, takeWithin_eq expands, taken, Limited.settled_ok_bind]
        rfl
      · simp only [List.foldlM_cons, taken]
        rfl
      · simp

theorem loop_eq {limited : ZChar → ZChar → Limited Decoded}
    {expand : ZChar → ZChar → Except Error Decoded}
    (expands : ∀ bank index, limited bank index = settled (expand bank index))
    {words : List UInt16} {turns : Nat} (enough : 3 * words.length < turns) :
    (loop alphabet scheme limited).run turns (ZString.unpack words, {}) =
      settled (decode alphabet scheme expand words) := by
  have enough : (ZString.unpack words).length < turns := by rwa [ZString.unpack_length]
  rw [Loop.run_eq (loop_follows expands) enough, decode, map_eq_pure_bind]

end Decoding

namespace Story

variable {story : Story} {turns : Nat}

/-- Decode a text with so many turns for each loop, cut off where texts in texts go deeper than
`depth`. -/
def decodeWithin (story : Story) (turns : Nat) :
    (depth : Nat) → (inAbbreviation : Bool) → List UInt16 → Limited Decoded
  | 0, _, _ => Limited.cutOff
  | depth + 1, inAbbreviation, words => do
    let alphabet ← settled (Alphabet.ofStory story)
    let expand (bank index : ZChar) : Limited Decoded :=
      if inAbbreviation then settled (.ok { warnings := [.abbreviationNested bank index] })
      else do
        let table := (story.memory.headerWord .abbreviationsTable).toNat
        let entry := (bank.val - 1) * 32 + index.val
        let address ← settled (story.memory.readWord (table + entry * 2))
        let words ← story.memory.textLoop.run turns (address.toNat * 2, [])
        story.decodeWithin turns depth true words
    (Decoding.loop alphabet story.version.shiftScheme expand).run turns (ZString.unpack words, {})

theorem decodeWithin_abbreviation {words : List UInt16} (enough : 3 * words.length < turns)
    (depth : Nat) :
    story.decodeWithin turns (depth + 1) true words = settled (story.decodeAbbreviation words) := by
  refine Limited.settled_bind fun alphabet _ => ?_
  exact Decoding.loop_eq (fun _ _ => rfl) enough

/-- An abbreviation is a text in a text, and there is none in it. -/
theorem decodeWithin_words {words : List UInt16} (long : 2 * story.memory.size ≤ turns)
    (short : 2 * words.length ≤ story.memory.size) :
    story.decodeWithin turns 2 false words = settled (story.decodeWords words) := by
  have size := story.memory.header_le_size
  refine Limited.settled_bind fun alphabet _ => ?_
  refine Decoding.loop_eq (fun bank index => ?_) (by omega)
  refine Limited.settled_bind fun address _ => ?_
  rw [Memory.textLoop_eq (by omega)]
  refine Limited.settled_bind fun words found => ?_
  have bound := Memory.textWords_length found
  exact decodeWithin_abbreviation (by omega) 0

/-- A short name lies in memory. -/
theorem shortName_length {object : Nat} {words : List UInt16}
    (found : story.shortName object = .ok words) : 2 * words.length ≤ story.memory.size := by
  obtain ⟨table, -, found⟩ := exists_of_bind_eq_ok found
  obtain ⟨count, -, found⟩ := exists_of_bind_eq_ok found
  rcases Memory.readWords_length found with rfl | inside
  · simp
  · omega

def propertyLoop (story : Story) (number : Nat) : Loop Nat (Option Property) := fun address => do
  if (← settled (story.memory.readByte address)) = 0 then
    return .done none
  let property ← settled (story.propertyAt address)
  return if property.number = number then .done (some property)
    else if property.number < number then .done none
    else .again (property.data + property.length)

theorem findProperty_of_error {number address : Nat} {error : Error}
    (more : story.memory.readByte address ≠ .ok 0)
    (missing : story.propertyAt address = .error error) :
    story.findProperty number address = .error error := by
  rw [findProperty, if_neg fun ended => more (Memory.readByte_eq_ok_iff.mpr ⟨ended.2, ended.1⟩)]
  split
  next other found =>
    cases found.symm.trans missing
    rfl
  next property found => cases found.symm.trans missing

theorem propertyLoop_follows (story : Story) (number address : Nat) :
    (story.propertyLoop number).Follows (story.findProperty number) (story.memory.size - ·)
      address := by
  cases read : story.memory.readByte address with
  | error error =>
    refine .failed error ?_ (findProperty_of_error (by simp [read]) ?_)
    · simp only [propertyLoop, read, Limited.settled_error_bind]
    · simp only [propertyAt, read, bind, Except.bind]
  | ok size =>
    by_cases zero : size = 0
    · subst zero
      refine .ended none ?_ (findProperty_of_end read number)
      simp only [propertyLoop, read, Limited.settled_ok_bind, ↓reduceIte]
      rfl
    · have more : story.memory.readByte address ≠ .ok 0 := by simpa [read] using zero
      have turn : story.propertyLoop number address = settled (story.propertyAt address) >>=
          fun property => pure <| if property.number = number then .done (some property)
            else if property.number < number then .done none
            else .again (property.data + property.length) := by
        simp only [propertyLoop, read, Limited.settled_ok_bind, zero, ↓reduceIte]
      cases found : story.propertyAt address with
      | error error =>
        refine .failed error ?_ (findProperty_of_error more found)
        rw [turn, found, Limited.settled_error_bind]
      | ok property =>
        have same := findProperty_of_property read zero found number
        rw [found, Limited.settled_ok_bind] at turn
        by_cases equal : property.number = number
        · rw [if_pos equal] at turn same
          exact .ended (some property) turn same
        · by_cases less : property.number < number
          · rw [if_neg equal, if_pos less] at turn same
            exact .ended none turn same
          · rw [if_neg equal, if_neg less] at turn same
            have past := data_gt_of_propertyAt found
            exact .went (property.data + property.length) turn same (by omega)

end Story

/-! Looking through a dictionary. -/

namespace Dictionary

variable {dictionary : Dictionary} {memory : Memory} {encoded : List UInt16}

def searchLoop (dictionary : Dictionary) (memory : Memory) (encoded : List UInt16) :
    Loop (Nat × Nat) (Option Nat) := fun (low, high) =>
  if low < high then do
    let pivot := low + (high - low) / 2
    match ← settled (compareEntry memory (dictionary.entry pivot) encoded) with
    | .eq => return .done (some (dictionary.entry pivot))
    | .lt => return .again (pivot + 1, high)
    | .gt => return .again (low, pivot)
  else
    return .done none

def scanLoop (dictionary : Dictionary) (memory : Memory) (encoded : List UInt16) :
    Loop (Nat × Nat) (Option Nat)
  | (_, 0) => return .done none
  | (index, remaining + 1) => do
    match ← settled (compareEntry memory (dictionary.entry index) encoded) with
    | .eq => return .done (some (dictionary.entry index))
    | _ => return .again (index + 1, remaining)

def findWithin (dictionary : Dictionary) (memory : Memory) (encoded : List UInt16) (turns : Nat) :
    Limited (Option Nat) :=
  if 0 < dictionary.count then
    (dictionary.searchLoop memory encoded).run turns (0, dictionary.count.toNat)
  else
    (dictionary.scanLoop memory encoded).run turns (0, dictionary.count.natAbs)

/-- Half of a number has fewer binary digits. -/
theorem size_lt_of_half {half whole : Nat} (less : 2 * half ≤ whole) (positive : 0 < whole) :
    Nat.size half < Nat.size whole := by
  rw [Nat.lt_size]
  by_cases zero : half = 0
  · subst zero
    exact positive
  · have digits : 0 < Nat.size half := Nat.size_pos.mpr (Nat.pos_of_ne_zero zero)
    have below : 2 ^ (Nat.size half - 1) ≤ half := Nat.lt_size.mp (by omega)
    have power : 2 ^ Nat.size half = 2 * 2 ^ (Nat.size half - 1) := by
      rw [← Nat.pow_succ']
      congr 1
      omega
    omega

/-- A search has as many turns left as the number of entries it has left has binary digits. -/
theorem searchLoop_follows (dictionary : Dictionary) (memory : Memory) (encoded : List UInt16)
    (state : Nat × Nat) : (dictionary.searchLoop memory encoded).Follows
      (fun state => dictionary.search memory encoded state.1 state.2)
      (fun state => Nat.size (state.2 - state.1)) state := by
  obtain ⟨low, high⟩ := state
  by_cases some : low < high
  · have turn : dictionary.searchLoop memory encoded (low, high) = _ := if_pos some
    have same : dictionary.search memory encoded low high = _ :=
      (search.eq_1 ..).trans (if_pos some)
    dsimp only at same
    cases compared : compareEntry memory (dictionary.entry (low + (high - low) / 2)) encoded with
    | error error =>
      rw [compared] at turn same
      exact .failed error turn same
    | ok order =>
      rw [compared] at turn same
      cases order with
      | eq => exact .ended _ turn same
      | lt =>
        refine .went (low + (high - low) / 2 + 1, high) turn same (size_lt_of_half ?_ ?_)
        all_goals
          simp only
          omega
      | gt =>
        refine .went (low, low + (high - low) / 2) turn same (size_lt_of_half ?_ ?_)
        all_goals
          simp only
          omega
  · exact .ended none (if_neg some) ((search.eq_1 ..).trans (if_neg some))

theorem lt_of_compareEntry {address : Nat} {order : Ordering}
    (compared : compareEntry memory address encoded = .ok order) (differ : order ≠ .eq) :
    address < memory.size := by
  cases encoded with
  | nil =>
    cases compared
    exact absurd rfl differ
  | cons expected rest =>
    obtain ⟨word, read, -⟩ := exists_of_bind_eq_ok compared
    exact Memory.lt_of_readWord read

/-- A scan has as many turns left as there are bytes from its entry to the end of memory, at most,
however many entries it is to look at. -/
theorem scanLoop_follows (wide : 0 < dictionary.entryLength) (memory : Memory)
    (encoded : List UInt16) (state : Nat × Nat) : (dictionary.scanLoop memory encoded).Follows
      (fun state => dictionary.scan memory encoded state.1 state.2)
      (fun state => memory.size - dictionary.entry state.1) state := by
  obtain ⟨index, remaining⟩ := state
  cases remaining with
  | zero => exact .ended none rfl rfl
  | succ remaining =>
    have turn : dictionary.scanLoop memory encoded (index, remaining + 1) = _ := scanLoop.eq_2 ..
    have same : dictionary.scan memory encoded index (remaining + 1) = _ := scan.eq_2 ..
    cases compared : compareEntry memory (dictionary.entry index) encoded with
    | error error =>
      rw [compared] at turn same
      exact .failed error turn same
    | ok order =>
      have further : order ≠ .eq →
          memory.size - dictionary.entry (index + 1) < memory.size - dictionary.entry index := by
        intro differ
        have inside := lt_of_compareEntry compared differ
        have next : dictionary.entry (index + 1) =
            dictionary.entry index + dictionary.entryLength := by
          rw [entry, entry, Nat.succ_mul, Nat.add_assoc]
        omega
      rw [compared] at turn same
      cases order with
      | eq => exact .ended _ turn same
      | lt => exact .went (index + 1, remaining) turn same (further (by decide))
      | gt => exact .went (index + 1, remaining) turn same (further (by decide))

theorem findWithin_eq {turns : Nat} (wide : 0 < dictionary.entryLength)
    (few : dictionary.count.toNat < 2 ^ 15) (enough : memory.size < turns) :
    dictionary.findWithin memory encoded turns = settled (dictionary.find? memory encoded) := by
  have size := memory.header_le_size
  rw [findWithin, find?]
  split
  · have digits : Nat.size dictionary.count.toNat ≤ 15 := Nat.size_le.mpr few
    have enough : Nat.size dictionary.count.toNat < turns := by omega
    exact Loop.run_eq (dictionary.searchLoop_follows memory encoded) enough
  · exact Loop.run_eq (scanLoop_follows wide memory encoded)
      (Nat.lt_of_le_of_lt (Nat.sub_le _ _) enough)

end Dictionary

namespace Story

variable {story : Story} {turns : Nat}

/-- A dictionary has room for words in its entries, and counts fewer than 2 ^ 15 entries. -/
theorem dictionary_bounds {address : Nat} {dictionary : Dictionary}
    (found : story.dictionary address = .ok dictionary) :
    0 < dictionary.entryLength ∧ dictionary.count.toNat < 2 ^ 15 := by
  have words : 0 < story.version.dictionaryWordBytes := by
    unfold Version.dictionaryWordBytes Version.dictionaryWordLength
    split <;> decide
  obtain ⟨separators, -, found⟩ := exists_of_bind_eq_ok found
  obtain ⟨entryLength, -, found⟩ := exists_of_bind_eq_ok found
  obtain ⟨count, -, found⟩ := exists_of_bind_eq_ok found
  have most := count.toInt16.toInt_lt
  dsimp only at found
  split at found
  · cases found
  · cases found
    constructor
    all_goals
      simp only
      omega

def lookupWithin (story : Story) (turns address : Nat) (text : List Zscii) :
    Limited (Option Nat) := do
  let dictionary ← settled (story.dictionary address)
  let encoded ← settled (story.encodeDictionaryWord text)
  dictionary.findWithin story.memory encoded turns

theorem lookupWithin_eq (enough : story.memory.size < turns) (address : Nat)
    (text : List Zscii) :
    story.lookupWithin turns address text = settled (story.lookup? address text) := by
  refine Limited.settled_bind fun dictionary found => ?_
  refine Limited.settled_bind fun encoded _ => ?_
  obtain ⟨wide, few⟩ := dictionary_bounds found
  exact Dictionary.findWithin_eq wide few enough

def terminatorsWithin (story : Story) (turns : Nat) : Limited (List Zscii) := do
  let table := (story.memory.headerWord .terminatorTable).toNat
  if story.version < .v5 ∨ table = 0 then
    return []
  let codes ← story.memory.terminatorLoop.run turns (table, [])
  return (codes.map UInt8.toUInt16).filter isTerminatingCode

theorem terminatorsWithin_eq (enough : story.memory.size < turns) :
    story.terminatorsWithin turns = settled story.terminators := by
  unfold terminatorsWithin terminators
  dsimp only
  split
  · rfl
  · rw [Memory.terminatorLoop_eq enough, Memory.bytesBeforeZero]
    cases story.memory.zeroByteFrom (story.memory.headerWord .terminatorTable).toNat with
    | error error => rfl
    | ok stop =>
      exact congrArg (fun codes => settled (.ok (codes.filter isTerminatingCode))) List.map_map

/-! Walking the object tree. -/

def siblingLoop (story : Story) (object parent : Nat) : Loop (Nat × Nat) Nat
  | (0, _) => settled (.error (.notAmongChildren object parent))
  | (steps + 1, candidate) =>
    if candidate = 0 then settled (.error (.notAmongChildren object parent))
    else do
      let next ← settled (story.sibling candidate)
      return if next = object then .done candidate else .again (steps, next)

theorem siblingLoop_follows (story : Story) (object parent : Nat) (state : Nat × Nat) :
    (story.siblingLoop object parent).Follows
      (fun state => story.previousSibling object parent state.1 state.2) (·.1) state := by
  obtain ⟨steps, candidate⟩ := state
  cases steps with
  | zero => exact .failed (.notAmongChildren object parent) rfl rfl
  | succ steps =>
    by_cases none : candidate = 0
    · subst none
      exact .failed (.notAmongChildren object parent) rfl rfl
    · have turn : story.siblingLoop object parent (steps + 1, candidate) = _ := if_neg none
      have same : story.previousSibling object parent (steps + 1) candidate = _ := if_neg none
      cases linked : story.sibling candidate with
      | error error =>
        rw [linked] at turn same
        exact .failed error turn same
      | ok next =>
        rw [linked, Limited.settled_ok_bind] at turn
        simp only [linked, bind, Except.bind] at same
        by_cases found : next = object
        · rw [if_pos found] at turn same
          exact .ended candidate turn same
        · rw [if_neg found] at turn same
          exact .went (steps, next) turn same (Nat.lt_succ_self steps)

def ancestorLoop (story : Story) (object : Nat) : Loop (Nat × Nat) Bool
  | (0, _) => return .done false
  | (steps + 1, candidate) =>
    if candidate = 0 then return .done false
    else if candidate = object then return .done true
    else do
      let next ← settled (story.parent candidate)
      return .again (steps, next)

theorem ancestorLoop_follows (story : Story) (object : Nat) (state : Nat × Nat) :
    (story.ancestorLoop object).Follows (fun state => story.isAncestor object state.1 state.2) (·.1)
      state := by
  obtain ⟨steps, candidate⟩ := state
  cases steps with
  | zero => exact .ended false rfl rfl
  | succ steps =>
    by_cases none : candidate = 0
    · subst none
      exact .ended false rfl rfl
    · by_cases found : candidate = object
      · exact .ended true ((if_neg none).trans (if_pos found)) ((if_neg none).trans (if_pos found))
      · have turn : story.ancestorLoop object (steps + 1, candidate) = _ :=
          (if_neg none).trans (if_neg found)
        have same : story.isAncestor object (steps + 1) candidate = _ :=
          (if_neg none).trans (if_neg found)
        cases linked : story.parent candidate with
        | error error =>
          rw [linked] at turn same
          exact .failed error turn same
        | ok next =>
          rw [linked] at turn same
          exact .went (steps, next) turn same (Nat.lt_succ_self steps)

end Story

/-- Every loop that a story drives ends within so many turns, with the result or the error that
the story's functions give. An abbreviation is the only text in a text. -/
structure Story.LoopsEnd (story : Story) (limit : Nat) : Prop where
  skips (address : Nat) :
    story.memory.skipLoop.run limit address = settled (story.memory.textEnd address)
  literals (address : Nat) :
    story.memory.textLoop.run limit (address, []) = settled (story.memory.textWords address)
  texts (address : Nat) :
    (story.memory.textLoop.run limit (address, []) >>= story.decodeWithin limit 2 false) =
      settled (story.decodeAt address)
  names (object : Nat) :
    (settled (story.shortName object) >>= story.decodeWithin limit 2 false) =
      settled (story.shortName object >>= story.decodeWords)
  properties (number address : Nat) :
    (story.propertyLoop number).run limit address = settled (story.findProperty number address)
  lookups (address : Nat) (text : List Zscii) :
    story.lookupWithin limit address text = settled (story.lookup? address text)
  terminators : story.terminatorsWithin limit = settled story.terminators
  forms (address : Nat) :
    (story.memory.formLoop limit).run limit (address, []) =
      settled (.ok (story.memory.formLines address))
  pictures (address : Nat) :
    story.memory.pictureLoop.run limit (address, []) = settled (story.memory.wordsUntilZero address)
  siblings (object parent first : Nat) :
    (story.siblingLoop object parent).run limit (story.walkLimit, first) =
      settled (story.previousSibling object parent story.walkLimit first)
  ancestors (object destination : Nat) :
    (story.ancestorLoop object).run limit (story.walkLimit, destination) =
      settled (story.isAncestor object story.walkLimit destination)

theorem Story.loopsEnd {story : Story} {limit : Nat} (long : 2 * story.memory.size ≤ limit)
    (walks : story.version.maxObject + 2 ≤ limit) : story.LoopsEnd limit := by
  have enough : story.memory.size < limit := by
    have size := story.memory.header_le_size
    omega
  have below (address : Nat) : story.memory.size - address < limit :=
    Nat.lt_of_le_of_lt (Nat.sub_le _ _) enough
  have steps : story.walkLimit < limit := walks
  constructor
  case skips => exact fun address => Loop.run_eq story.memory.skipLoop_follows (below address)
  case literals => exact Memory.textLoop_eq enough
  case texts =>
    intro address
    rw [Memory.textLoop_eq enough]
    refine Limited.settled_bind fun words found => ?_
    exact decodeWithin_words long (Memory.textWords_length found)
  case names =>
    refine fun object => Limited.settled_bind fun words found => ?_
    exact decodeWithin_words long (shortName_length found)
  case properties =>
    exact fun number address => Loop.run_eq (story.propertyLoop_follows number) (below address)
  case lookups => exact lookupWithin_eq enough
  case terminators => exact terminatorsWithin_eq enough
  case forms =>
    exact fun address => Loop.run_eq (Memory.formLoop_follows enough) (below address)
  case pictures => exact Memory.pictureLoop_eq enough
  case siblings =>
    exact fun object parent first => Loop.run_eq (story.siblingLoop_follows object parent) steps
  case ancestors =>
    exact fun object destination => Loop.run_eq (story.ancestorLoop_follows object) steps

/-- No story can keep a step from ending. Whatever the memory of a machine holds and whatever input
a step gets, in every state that a step or a run goes through every loop that the story drives ends
within one limit, which depends only on the size of memory and on the version. -/
theorem Machine.story_driven_loops_end [Host η] (machine : Machine η) (input : Option InputResponse) :
    let limit := max (2 * machine.story.memory.size) (machine.story.version.maxObject + 2)
    Reaches machine (finalState (Engine.step input machine)) ∧
      ∀ reached : Machine η, Reaches machine reached → reached.story.LoopsEnd limit := by
  refine ⟨Engine.reaches_step input machine, fun reached way => ?_⟩
  have same := Story.SameLayout.reaches way
  refine Story.loopsEnd ?_ ?_
  · rw [same.size]
    exact Nat.le_max_left _ _
  · rw [Story.version, same.format]
    exact Nat.le_max_right _ _

/-- A story of version 3 in which objects 1 and 2 are each other's sibling and object 1 is the first
child of object 4, which object 3 has as its parent. -/
def circleImage : Array UInt8 :=
  imageOfBytes 0x100 [(0x00, 3), (0x07, 0xc0), (0x0b, 0x40), (0x0e, 1), (131, 2), (140, 1), (148, 4),
    (159, 1), (0xc0, 0xba)]

/-- A walk round a circle of siblings takes 257 turns to give up. -/
theorem Machine.story_driven_loops_end_circleImage :
    ∃ started, Machine.started? circleImage = some started ∧
      Reaches started (finalState (Engine.step none started)) ∧
      (started.story.siblingLoop 3 4).run 512 (started.story.walkLimit, 1) =
        settled (.error (.notAmongChildren 3 4)) ∧
      ExceptT.run ((started.story.siblingLoop 3 4).run 256 (started.story.walkLimit, 1)) = none := by
  have facts : (Machine.started? circleImage).any (fun started =>
      started.story.memory.size = 256 ∧ started.story.version = .v3 ∧
      started.story.previousSibling 3 4 started.story.walkLimit 1 =
        .error (.notAmongChildren 3 4) ∧
      ExceptT.run ((started.story.siblingLoop 3 4).run 256 (started.story.walkLimit, 1)) = none) =
      true := by
    decide +kernel
  obtain ⟨started, begun, holds⟩ := (Option.any_eq_true _ _).mp facts
  obtain ⟨size, version, gaveUp, cutOff⟩ := of_decide_eq_true holds
  obtain ⟨way, ends⟩ := Machine.story_driven_loops_end started none
  have walk := (ends started .refl).siblings 3 4 1
  rw [size, version, gaveUp] at walk
  exact ⟨started, begun, way, walk, cutOff⟩

end StoryMachine
