import StoryMachine.Machine.Tokens
import StoryMachine.Proofs.Agreement
import StoryMachine.Proofs.LookupRegions
import StoryMachine.Proofs.StaticMemory
import StoryMachine.Proofs.WordSplitting

/-! Parse buffers. The words of a text buffer are noted one after the other, each looked up in the
story as it is by then. Where the parse buffer lies apart from what lookups read, that is the story
as it was, and where it lies apart from the text, the noted positions lead back to the words. -/

namespace StoryMachine

namespace Word

/-- The bytes that note a word: the address of its entry, or 0 if it has none, its length, and its
position in the text buffer. -/
def token (word : Word) (version : Version) (entry : Option Nat) : List UInt8 :=
  let address := UInt16.ofNat (entry.getD 0)
  [highByte address, lowByte address, UInt8.ofNat word.letters.length,
    UInt8.ofNat (word.start + version.textOffset)]

/-- The position of a word fits in its byte, unless it is 256. -/
theorem position_byte {word : Word} (inside : word.start < 255) (version : Version) :
    (UInt8.ofNat (word.start + version.textOffset)).toNat =
      if .v5 ≤ version ∧ word.start = 254 then 0 else version.textOffset + word.start := by
  rw [UInt8.toNat_ofNat', Version.textOffset]
  split
  next early =>
    rw [if_neg (fun last => Nat.not_lt.mpr last.1 early)]
    omega
  next late =>
    split
    next last => omega
    next before_last =>
      have ne : word.start ≠ 254 := fun last => before_last ⟨Nat.not_lt.mp late, last⟩
      omega

end Word

namespace Story

/-- A word was noted at a place. One that has no entry was left out if unknown words are skipped. -/
def Noted (skipUnknown : Bool) (place : Nat) (word : Word) (entry : Option Nat)
    (before after : Story) : Prop :=
  if entry.isSome ∨ ¬ skipUnknown then
    after.memory.Holds place (word.token before.version entry)
  else
    ∀ byte ∈ Region.mk place (place + 4), after.memory.byteAt byte = before.memory.byteAt byte

namespace Noted

variable {skipUnknown : Bool} {place : Nat} {word : Word} {entry : Option Nat}
  {before middle after : Story} {touched : Nat → Prop}
  (apart : ∀ byte ∈ Region.mk place (place + 4), ¬ touched byte)

include apart

/-- Changes elsewhere that come later leave a word noted. -/
theorem later (noted : Noted skipUnknown place word entry before middle)
    (changed : ChangedOnly touched middle after) :
    Noted skipUnknown place word entry before after := by
  unfold Noted at noted ⊢
  split
  next note =>
    rw [if_pos note] at noted
    refine changed.holds (fun index inside => apart _ ?_) noted
    have length : (word.token before.version entry).length = 4 := rfl
    rw [Region.mem_mk]
    omega
  next skip =>
    rw [if_neg skip] at noted
    intro byte member
    rw [changed.elsewhere byte (apart byte member), noted byte member]

/-- Changes elsewhere that came earlier make no difference. -/
theorem earlier (changed : ChangedOnly touched before middle)
    (noted : Noted skipUnknown place word entry middle after) :
    Noted skipUnknown place word entry before after := by
  unfold Noted at noted ⊢
  rw [changed.version] at noted
  split
  next note =>
    rw [if_pos note] at noted
    exact noted
  next skip =>
    rw [if_neg skip] at noted
    intro byte member
    rw [noted byte member, changed.elsewhere byte (apart byte member)]

end Noted

end Story

theorem Memory.token_of_holds {memory : Memory} {place : Nat} {word : Word} {version : Version}
    {entry : Option Nat} (held : memory.Holds place (word.token version entry)) :
    memory.wordAt place = UInt16.ofNat (entry.getD 0) ∧
      memory.byteAt (place + 2) = UInt8.ofNat word.letters.length ∧
      memory.byteAt (place + 3) = UInt8.ofNat (word.start + version.textOffset) := by
  obtain ⟨address, rest⟩ := holds_word held
  obtain ⟨length, rest⟩ := holds_cons.mp rest
  obtain ⟨position, -⟩ := holds_cons.mp rest
  exact ⟨(readWord_eq_ok_iff.mp address).2, (readByte_eq_ok_iff.mp length).2,
    (readByte_eq_ok_iff.mp position).2⟩

namespace Update
open Story

variable {dictionary place : Nat} {skipUnknown : Bool} {word : Word} {words : List Word}
  {before after : Story}

theorem changes_writeToken (dictionary : Nat) (skipUnknown : Bool) {place : Nat} (word : Word)
    {touched : Nat → Prop} (members : ∀ byte ∈ Region.mk place (place + 4), touched byte) :
    Keeps (ChangedOnly touched) (writeToken dictionary skipUnknown place word) := by
  simp only [Region.mem_mk] at members
  refine (keeps_query _).bind fun entry => ?_
  refine keeps_get.bind fun story => ?_
  refine Keeps.ite ?_ (keeps_pure ())
  refine (changes_writeWord (members _ (by omega)) (members _ (by omega)) _).bind fun _ => ?_
  refine (changes_writeByte (members _ (by omega)) _).bind fun _ => ?_
  exact changes_writeByte (members _ (by omega)) _

theorem changes_writeTokens (dictionary : Nat) (skipUnknown : Bool) {place : Nat}
    {words : List Word} {touched : Nat → Prop}
    (members : ∀ byte ∈ Region.mk place (place + 4 * words.length), touched byte) :
    Keeps (ChangedOnly touched) (writeTokens dictionary skipUnknown place words) := by
  induction words generalizing place with
  | nil => exact keeps_pure ()
  | cons word rest ih =>
    simp only [List.length_cons, Region.mem_mk] at members
    refine (changes_writeToken dictionary skipUnknown word fun byte member => ?_).bind fun _ =>
      ih fun byte member => ?_
    · rw [Region.mem_mk] at member
      exact members byte (by omega)
    · rw [Region.mem_mk] at member
      exact members byte (by omega)

theorem exists_of_query_bind {read : Story → Except Error α} {next : α → Update β} {result : β}
    (ran : (query read >>= next) before = .ok result after) :
    ∃ value, read before = .ok value ∧ next value before = .ok result after := by
  cases found : read before with
  | ok value =>
    rw [bind_of_ok (query_of_ok found)] at ran
    exact ⟨value, rfl, ran⟩
  | error error =>
    have failed : query read before = .error error before := by simp only [query, found]
    rw [bind_of_error failed] at ran
    cases ran

theorem writeByte_holds {value : UInt8} (written : writeByte place value before = .ok () after) :
    after.memory.Holds place [value] := by
  have one : writeBytes place [value] before = .ok () after := by
    rw [writeBytes, bind_of_ok written]
    rfl
  exact writeBytes_holds one

theorem writeWord_holds {value : UInt16} (written : writeWord place value before = .ok () after) :
    after.memory.Holds place [highByte value, lowByte value] := by
  rw [writeWord_eq] at written
  split at written
  next inside =>
    cases written
    exact Memory.holds_putWord (Nat.lt_of_lt_of_le inside before.memory.mark_le_size) value
  next => cases written

/-- A word that was noted was looked up first. -/
theorem noted_writeToken
    (written : writeToken dictionary skipUnknown place word before = .ok () after) :
    ∃ entry, before.lookup? dictionary word.letters = .ok entry ∧
      Noted skipUnknown place word entry before after := by
  obtain ⟨entry, found, written⟩ := exists_of_query_bind written
  refine ⟨entry, found, ?_⟩
  rw [get_bind] at written
  unfold Noted
  split
  next note =>
    rw [if_pos note] at written
    obtain ⟨_, first, address, written⟩ := exists_of_bind_ok written
    obtain ⟨_, second, length, position⟩ := exists_of_bind_ok written
    have later : ChangedOnly (· ∈ Region.mk (place + 2) (place + 4)) first after := by
      refine ((changes_writeByte ?_ _).of_ok length).trans ((changes_writeByte ?_ _).of_ok position)
      · rw [Region.mem_mk]
        omega
      · rw [Region.mem_mk]
        omega
    have last : ChangedOnly (· ∈ Region.mk (place + 3) (place + 4)) second after := by
      refine (changes_writeByte ?_ _).of_ok position
      rw [Region.mem_mk]
      omega
    have entryHeld := later.holds (fun index inside => by
      simp only [List.length_cons, List.length_nil] at inside
      rw [Region.mem_mk]
      omega) (writeWord_holds address)
    have lengthHeld := last.holds (fun index inside => by
      simp only [List.length_singleton] at inside
      rw [Region.mem_mk]
      omega) (writeByte_holds length)
    exact Memory.holds_append.mpr ⟨entryHeld,
      Memory.holds_append.mpr ⟨lengthHeld, writeByte_holds position⟩⟩
  next skip =>
    rw [if_neg skip] at written
    cases written
    exact fun _ _ => rfl

/-- Each of the words that were noted was looked up after the words before it were noted. -/
theorem noted_writeTokens
    (written : writeTokens dictionary skipUnknown place words before = .ok () after) (index : Nat)
    (inside : index < words.length) :
    ∃ seen entry, ChangedOnly (· ∈ Region.mk place (place + 4 * index)) before seen ∧
      seen.lookup? dictionary words[index].letters = .ok entry ∧
      Noted skipUnknown (place + 4 * index) words[index] entry before after := by
  induction words generalizing place before index with
  | nil => cases inside
  | cons word rest ih =>
    obtain ⟨_, middle, first, others⟩ := exists_of_bind_ok written
    have before_middle : ChangedOnly (· ∈ Region.mk place (place + 4)) before middle :=
      (changes_writeToken dictionary skipUnknown word fun _ member => member).of_ok first
    cases index with
    | zero =>
      obtain ⟨entry, found, noted⟩ := noted_writeToken first
      have middle_after : ChangedOnly (· ∈ Region.mk (place + 4) (place + 4 + 4 * rest.length))
          middle after :=
        (changes_writeTokens dictionary skipUnknown fun _ member => member).of_ok others
      refine ⟨before, entry, .refl _ before, found, noted.later ?_ middle_after⟩
      intro byte member
      simp only [Region.mem_mk] at member ⊢
      omega
    | succ index =>
      obtain ⟨seen, entry, changed, found, noted⟩ := ih others index (by simpa using inside)
      have place_eq : place + 4 * (index + 1) = place + 4 + 4 * index := by omega
      rw [List.getElem_cons_succ, place_eq]
      refine ⟨seen, entry, ?_, found, noted.earlier ?_ before_middle⟩
      · refine (before_middle.mono ?_).trans (changed.mono ?_)
        · intro byte member
          simp only [Region.mem_mk] at member ⊢
          omega
        · intro byte member
          simp only [Region.mem_mk] at member ⊢
          omega
      · intro byte member
        simp only [Region.mem_mk] at member ⊢
        omega

theorem writeByte_ok (inside : place < before.memory.staticMark) (value : UInt8) :
    ∃ after, writeByte place value before = .ok () after ∧
      after.memory.staticMark = before.memory.staticMark :=
  ⟨{ before with memory := before.memory.put place value },
    by rw [writeByte_eq, if_pos inside], rfl⟩

theorem writeToken_ok {entry : Option Nat} (inside : place + 4 ≤ before.memory.staticMark)
    (found : before.lookup? dictionary word.letters = .ok entry) :
    ∃ after, writeToken dictionary skipUnknown place word before = .ok () after := by
  rw [writeToken, bind_of_ok (query_of_ok found), get_bind]
  split
  next =>
    obtain ⟨first, address, changed, -⟩ := writeWord_ok
      (by omega : place + 1 < before.memory.staticMark) (UInt16.ofNat (entry.getD 0))
    have mark := changed.staticMark
    obtain ⟨second, length, mark'⟩ := writeByte_ok
      (by omega : place + 2 < first.memory.staticMark) (UInt8.ofNat word.letters.length)
    obtain ⟨after, position, -⟩ := writeByte_ok
      (by omega : place + 3 < second.memory.staticMark)
      (UInt8.ofNat (word.start + before.version.textOffset))
    rw [bind_of_ok address, bind_of_ok length]
    exact ⟨after, position⟩
  next => exact ⟨before, rfl⟩

/-- Words can be noted in dynamic memory, if each can be looked up whatever has been noted there. -/
theorem writeTokens_ok (inside : place + 4 * words.length ≤ before.memory.staticMark)
    (found : ∀ seen, ChangedOnly (· ∈ Region.mk place (place + 4 * words.length)) before seen →
      ∀ word, ∃ entry, seen.lookup? dictionary word = .ok entry) :
    ∃ after, writeTokens dictionary skipUnknown place words before = .ok () after := by
  induction words generalizing place before with
  | nil => exact ⟨before, rfl⟩
  | cons word rest ih =>
    rw [List.length_cons] at inside found
    obtain ⟨entry, here⟩ := found before (.refl _ before) word.letters
    obtain ⟨middle, first⟩ : ∃ middle,
        writeToken dictionary skipUnknown place word before = .ok () middle :=
      writeToken_ok (by omega) here
    have changed : ChangedOnly (· ∈ Region.mk place (place + 4 * (rest.length + 1)))
        before middle := by
      refine (changes_writeToken dictionary skipUnknown word ?_).of_ok first
      intro byte member
      rw [Region.mem_mk] at member ⊢
      omega
    obtain ⟨after, others⟩ : ∃ after,
        writeTokens dictionary skipUnknown (place + 4) rest middle = .ok () after := by
      apply ih
      · rw [changed.staticMark]
        omega
      · intro seen later
        refine found seen (changed.trans (later.mono ?_))
        intro byte member
        rw [Region.mem_mk] at member ⊢
        omega
    exact ⟨after, (bind_of_ok first).trans others⟩

end Update

namespace Story

variable {story : Story}

theorem holds_of_bytesUntilZero {address count : Nat} {bytes : List UInt8}
    (found : story.bytesUntilZero address count = .ok bytes) :
    story.memory.Holds address bytes ∧ bytes.length ≤ count := by
  induction count generalizing address bytes with
  | zero =>
    cases found
    exact ⟨Memory.holds_nil _ _, Nat.le_refl _⟩
  | succ count ih =>
    obtain ⟨byte, read, found⟩ := exists_of_bind_eq_ok found
    split at found
    next =>
      cases found
      exact ⟨Memory.holds_nil _ _, Nat.zero_le _⟩
    next =>
      obtain ⟨rest, later, found⟩ := exists_of_bind_eq_ok found
      cases found
      obtain ⟨held, length⟩ := ih later
      exact ⟨Memory.holds_cons.mpr ⟨read, held⟩, Nat.succ_le_succ length⟩

/-- The text of a buffer stands in memory, and it has no more than 255 characters. -/
theorem holds_of_bufferText {buffer : Nat} {text : List Zscii}
    (found : story.bufferText buffer = .ok text) :
    ∃ bytes : List UInt8, text = bytes.map UInt8.toUInt16 ∧ bytes.length ≤ 255 ∧
      story.memory.Holds (buffer + story.version.textOffset) bytes := by
  rw [bufferText] at found
  rw [Version.textOffset]
  split at found
  next early =>
    rw [if_pos early]
    obtain ⟨capacity, -, found⟩ := exists_of_bind_eq_ok found
    obtain ⟨bytes, found, same⟩ := exists_of_bind_eq_ok found
    obtain ⟨held, length⟩ := holds_of_bytesUntilZero found
    cases same
    exact ⟨bytes, rfl, Nat.le_trans length (Nat.le_of_lt_succ capacity.toNat_lt), held⟩
  next late =>
    rw [if_neg late]
    obtain ⟨length, -, found⟩ := exists_of_bind_eq_ok found
    obtain ⟨bytes, found, same⟩ := exists_of_bind_eq_ok found
    obtain ⟨same_length, held⟩ := Memory.readBytes_eq_ok_iff.mp found
    cases same
    exact ⟨bytes, rfl, same_length ▸ Nat.le_of_lt_succ length.toNat_lt, held⟩

/-- The words of a buffer end before its 256th character. -/
theorem stop_le_of_bufferText {buffer index : Nat} {text separators : List Zscii} {word : Word}
    (found : story.bufferText buffer = .ok text)
    (listed : (Word.split text separators)[index]? = some word) :
    word.start + word.letters.length ≤ 255 := by
  obtain ⟨bytes, rfl, short, -⟩ := holds_of_bufferText found
  have inside := (Word.spells_split _ separators word (List.mem_of_getElem? listed)).inside
  rw [List.length_map] at inside
  omega

/-- A parse buffer: two bytes, and four for each word that its first byte makes room for. -/
def parseRegion (story : Story) (buffer : Nat) : Region :=
  ⟨buffer, buffer + 2 + 4 * (story.memory.byteAt buffer).toNat⟩

structure Filled (dictionary : Nat) (skipUnknown : Bool) (parseBuffer capacity : Nat)
    (words : List Word) (before after : Story) : Prop where
  changed : ChangedOnly
    (· ∈ Region.mk (parseBuffer + 1) (parseBuffer + 2 + 4 * min words.length capacity)) before after
  count : after.memory.byteAt (parseBuffer + 1) = UInt8.ofNat (min words.length capacity)
  noted : ∀ index (inside : index < words.length), index < capacity →
    ∃ seen entry, ChangedOnly
        (· ∈ Region.mk (parseBuffer + 2) (parseBuffer + 2 + 4 * index)) before seen ∧
      seen.lookup? dictionary words[index].letters = .ok entry ∧
      Noted skipUnknown (parseBuffer + 2 + 4 * index) words[index] entry before after

section Filled

variable {dictionary parseBuffer : Nat} {skipUnknown : Bool} {words : List Word}
  {before after : Story}

/-- Where a parse buffer lies apart from what lookups read, its entries are those of the story as it
was before it was filled. -/
theorem Filled.entry
    (filled : Filled dictionary skipUnknown parseBuffer (before.memory.byteAt parseBuffer).toNat
      words before after)
    (apart : ∀ region ∈ before.lookupRegions dictionary,
      (before.parseRegion parseBuffer).Apart region) {index : Nat} {word : Word}
    (listed : words[index]? = some word) (room : index < (before.memory.byteAt parseBuffer).toNat) :
    ∃ entry, before.lookup? dictionary word.letters = .ok entry ∧
      Noted skipUnknown (parseBuffer + 2 + 4 * index) word entry before after := by
  obtain ⟨inside, rfl⟩ := List.getElem?_eq_some_iff.mp listed
  obtain ⟨seen, entry, changed, found, noted⟩ := filled.noted index inside room
  have unread := Unread.of_apart apart
  rw [lookup?_unchanged changed (unread.mono ?_)] at found
  · exact ⟨entry, found, noted⟩
  · intro byte member
    simp only [Region.mem_iff, parseRegion] at member ⊢
    omega

theorem Filled.changed_parseRegion
    (filled : Filled dictionary skipUnknown parseBuffer (before.memory.byteAt parseBuffer).toNat
      words before after) : ChangedOnly (· ∈ before.parseRegion parseBuffer) before after := by
  refine filled.changed.mono fun byte member => ?_
  simp only [Region.mem_iff, parseRegion] at member ⊢
  omega

theorem Filled.count_eq {capacity : UInt8}
    (filled : Filled dictionary skipUnknown parseBuffer capacity.toNat words before after) :
    (after.memory.byteAt (parseBuffer + 1)).toNat = min words.length capacity.toNat := by
  have bound := capacity.toNat_lt
  rw [filled.count, UInt8.toNat_ofNat']
  omega

end Filled

theorem filled_of_written {dictionary parseBuffer capacity : Nat} {skipUnknown : Bool}
    {words : List Word} {before middle after : Story}
    (tokens : Update.writeTokens dictionary skipUnknown (parseBuffer + 2) (words.take capacity)
      before = .ok () middle)
    (count : Update.writeByte (parseBuffer + 1) (UInt8.ofNat (min words.length capacity)) middle =
      .ok () after) :
    Filled dictionary skipUnknown parseBuffer capacity words before after := by
  have length : (words.take capacity).length = min words.length capacity := by
    rw [List.length_take, Nat.min_comm]
  have entries : ChangedOnly
      (· ∈ Region.mk (parseBuffer + 2) (parseBuffer + 2 + 4 * min words.length capacity))
      before middle := by
    rw [← length]
    exact (Update.changes_writeTokens dictionary skipUnknown fun _ member => member).of_ok tokens
  have counted : ChangedOnly (· ∈ Region.mk (parseBuffer + 1) (parseBuffer + 2)) middle after := by
    refine (Update.changes_writeByte ?_ _).of_ok count
    rw [Region.mem_mk]
    omega
  constructor
  · refine (entries.mono ?_).trans (counted.mono ?_)
    · intro byte member
      rw [Region.mem_mk] at member ⊢
      omega
    · intro byte member
      rw [Region.mem_mk] at member ⊢
      omega
  · have held := (Memory.holds_cons.mp (Update.writeByte_holds count)).1
    exact (Memory.readByte_eq_ok_iff.mp held).2
  · intro index inside room
    have kept : index < (words.take capacity).length := by
      rw [length]
      omega
    obtain ⟨seen, entry, earlier, found, noted⟩ := Update.noted_writeTokens tokens index kept
    rw [List.getElem_take] at found noted
    refine ⟨seen, entry, earlier, found, noted.later ?_ counted⟩
    intro byte member
    rw [Region.mem_mk] at member ⊢
    omega

end Story

namespace Engine

variable {η : Type} {machine : Machine η}

variable [Host η] {after : Machine η} {textBuffer parseBuffer dictionary : Nat} {skipUnknown : Bool}

theorem sameStory_report (error : Error) :
    Keeps (fun before after : Machine η => after.story = before.story)
      (report error : Engine η Unit) := by
  intro machine
  by_cases recoverable : error.isRecoverable = true
  · by_cases aborts : machine.config.errorPolicy = .abort
    · rw [report_of_abort aborts]
      rfl
    · rw [report_of_going aborts recoverable]
      rfl
  · rw [report_of_fatal recoverable]
    rfl

/-- Where a text buffer was analysed, the parse buffer was filled with its words. -/
theorem filled_tokenise
    (ran : tokenise textBuffer parseBuffer dictionary skipUnknown machine = .ok () after) :
    ∃ separators text, machine.story.separators dictionary = .ok separators ∧
      machine.story.bufferText textBuffer = .ok text ∧
      Story.Filled dictionary skipUnknown parseBuffer
        (machine.story.memory.byteAt parseBuffer).toNat (Word.split text separators)
        machine.story after.story := by
  obtain ⟨separators, separated, ran⟩ := exists_of_query_ok ran
  obtain ⟨text, read, ran⟩ := exists_of_query_ok ran
  obtain ⟨capacity, sized, ran⟩ := exists_of_query_ok ran
  obtain ⟨-, rfl⟩ := Memory.readByte_eq_ok_iff.mp sized
  obtain ⟨_, _, updated, ran⟩ := exists_of_bind_ok ran
  obtain ⟨noted, tokens, rfl⟩ := exists_of_update_ok updated
  refine ⟨separators, text, separated, read, ?_⟩
  split at ran
  next =>
    obtain ⟨_, told, reported, ran⟩ := exists_of_bind_ok ran
    obtain ⟨story, counted, rfl⟩ := exists_of_update_ok ran
    have same : told.story = noted := (sameStory_report _).of_ok reported
    exact Story.filled_of_written tokens (same ▸ counted)
  next =>
    obtain ⟨story, counted, rfl⟩ := exists_of_update_ok ran
    exact Story.filled_of_written tokens counted

/-- Where the parse buffer lies in dynamic memory and apart from what lookups read, filling it
works. All else that happens is that words are reported for which it has no room. -/
theorem tokenise_ok (skipUnknown : Bool) {separators text : List Zscii}
    (separated : machine.story.separators dictionary = .ok separators)
    (readable : machine.story.bufferText textBuffer = .ok text)
    (searchable : machine.story.Searchable dictionary)
    (dynamic : (machine.story.parseRegion parseBuffer).stop ≤ machine.story.memory.staticMark)
    (unread : machine.story.Unread dictionary (· ∈ machine.story.parseRegion parseBuffer))
    (policy : machine.config.errorPolicy ≠ .abort) :
    let words := Word.split text separators
    let capacity := (machine.story.memory.byteAt parseBuffer).toNat
    ∃ after, tokenise textBuffer parseBuffer dictionary skipUnknown machine = .ok () after ∧
      (if capacity < words.length then report (.parseBufferFull parseBuffer capacity words.length)
        else pure () : Engine η Unit) { machine with story := after.story } = .ok () after := by
  intro words capacity
  have stop : (machine.story.parseRegion parseBuffer).stop = parseBuffer + 2 + 4 * capacity := rfl
  rw [stop] at dynamic
  have length : (words.take capacity).length ≤ capacity := List.length_take_le _ _
  have sized : machine.story.memory.readByte parseBuffer =
      .ok (machine.story.memory.byteAt parseBuffer) := by
    have size := machine.story.memory.mark_le_size
    exact Memory.readByte_eq_ok_iff.mpr ⟨by simp only [Memory.size]; omega, rfl⟩
  obtain ⟨noted, tokens⟩ : ∃ noted, Update.writeTokens dictionary skipUnknown (parseBuffer + 2)
      (words.take capacity) machine.story = .ok () noted := by
    apply Update.writeTokens_ok (by omega)
    intro seen changed word
    rw [Story.lookup?_unchanged changed (unread.mono ?_)]
    · exact searchable.lookup?_ok word
    · intro byte member
      simp only [Region.mem_iff, Story.parseRegion] at member ⊢
      omega
  have mark : noted.memory.staticMark = machine.story.memory.staticMark :=
    ((Update.keeps_writeTokens _ _ _ _).of_ok tokens).staticMark
  obtain ⟨filled, counted, -⟩ := Update.writeByte_ok
    (by omega : parseBuffer + 1 < noted.memory.staticMark)
    (UInt8.ofNat (min words.length capacity))
  rw [tokenise, bind_of_ok (query_of_ok separated), bind_of_ok (query_of_ok readable),
    bind_of_ok (query_of_ok sized), bind_of_ok (update_of_ok tokens)]
  split
  next crowded =>
    have going (story : Story) : report (.parseBufferFull parseBuffer capacity words.length)
        { machine with story } = .ok () ({ machine with story }.told
          (.parseBufferFull parseBuffer capacity words.length)) := by
      have policy : { machine with story }.config.errorPolicy ≠ .abort := policy
      exact report_of_going policy rfl
    rw [bind_of_ok (going noted)]
    exact ⟨_, update_of_ok counted, going filled⟩
  next => exact ⟨_, update_of_ok counted, rfl⟩

/-- Where a text buffer and a dictionary can be read, and a parse buffer lies in dynamic memory and
apart from all that lookups read, the parse buffer is filled: with the number of the words, as far
as it has room for them, and for each of them with its entry, its length and its position. Words
without an entry are left out if unknown words are skipped. Nothing else in memory changes. If
there are words for which there is no room, that is reported once. -/
theorem tokenise_fills_parse_buffer (skipUnknown : Bool) {text : List Zscii}
    (policy : machine.config.errorPolicy ≠ .abort)
    (readable : machine.story.bufferText textBuffer = .ok text)
    (searchable : machine.story.Searchable dictionary)
    (dynamic : (machine.story.parseRegion parseBuffer).stop ≤ machine.story.memory.staticMark)
    (apart : ∀ region ∈ machine.story.lookupRegions dictionary,
      (machine.story.parseRegion parseBuffer).Apart region) :
    ∃ separators error filled after, machine.story.separators dictionary = .ok separators ∧
      error.code = .parseBufferOverflow ∧
      let words := Word.split text separators
      let capacity := (machine.story.memory.byteAt parseBuffer).toNat
      tokenise textBuffer parseBuffer dictionary skipUnknown machine = .ok () after ∧
      (if capacity < words.length then report error else pure () : Engine η Unit)
        { machine with story := filled } = .ok () after ∧
      after.story = filled ∧
      (filled.memory.byteAt (parseBuffer + 1)).toNat = min words.length capacity ∧
      (∀ index word, words[index]? = some word → index < capacity →
        ∃ entry, machine.story.lookup? dictionary word.letters = .ok entry ∧
          let place := parseBuffer + 2 + 4 * index
          if entry = none ∧ skipUnknown = true then
            ∀ byte ∈ Region.mk place (place + 4),
              filled.memory.byteAt byte = machine.story.memory.byteAt byte
          else
            filled.memory.wordAt place = UInt16.ofNat (entry.getD 0) ∧
            (filled.memory.byteAt (place + 2)).toNat = word.letters.length ∧
            filled.memory.byteAt (place + 3) =
              UInt8.ofNat (word.start + machine.version.textOffset)) ∧
      Story.ChangedOnly (· ∈ Region.mk (parseBuffer + 1)
        (parseBuffer + 2 + 4 * min words.length capacity)) machine.story filled := by
  obtain ⟨separators, separated⟩ := searchable.separators_ok
  obtain ⟨after, ran, reported⟩ := tokenise_ok skipUnknown separated readable searchable dynamic
    (.of_apart apart) policy
  obtain ⟨separators', text', separated', readable', filled⟩ := filled_tokenise ran
  obtain rfl : separators = separators' := Except.ok.inj (separated.symm.trans separated')
  obtain rfl : text = text' := Except.ok.inj (readable.symm.trans readable')
  refine ⟨separators, _, after.story, after, separated, rfl, ran, reported, rfl, filled.count_eq,
    ?_, filled.changed⟩
  intro index word listed room
  obtain ⟨entry, found, noted⟩ := filled.entry apart listed room
  refine ⟨entry, found, ?_⟩
  unfold Story.Noted at noted
  split
  next skipped =>
    rw [if_neg (by simp [skipped])] at noted
    exact noted
  next kept =>
    rw [if_pos (by cases entry <;> simp_all)] at noted
    obtain ⟨address, length, position⟩ := Memory.token_of_holds noted
    have short := Story.stop_le_of_bufferText readable listed
    refine ⟨address, ?_, position⟩
    rw [length, UInt8.toNat_ofNat']
    omega

/-- A story whose text buffer at 0x50 has the text "b,c d", whose parse buffer at 0x60 has room for
two words, and whose dictionary at 0x70 has the word b and the separator ",". -/
def parsingImage : Machine MemoryStore :=
  .ofBytes .v5 [(0x50, 8), (0x51, 5), (0x52, 98), (0x53, 44), (0x54, 99), (0x55, 32), (0x56, 100),
    (0x60, 2), (0x66, 7), (0x70, 1), (0x71, 44), (0x72, 6), (0x74, 1), (0x75, 0x1c), (0x76, 0xa5),
    (0x77, 0x14), (0x78, 0xa5), (0x79, 0x94), (0x7a, 0xa5)]

theorem tokenise_fills_parse_buffer_parsingImage :
    parsingImage.story.bufferText 0x50 = .ok [98, 44, 99, 32, 100] ∧
      parsingImage.story.Searchable 0x70 ∧
      ∃ after, tokenise 0x50 0x60 0x70 true parsingImage = .ok () after ∧
        (after.story.memory.byteAt 0x61).toNat = 2 ∧ after.story.memory.wordAt 0x62 = 0x75 ∧
        (after.story.memory.byteAt 0x64).toNat = 1 ∧ after.story.memory.byteAt 0x65 = 2 ∧
        after.story.memory.byteAt 0x66 = 7 := by
  have readable : parsingImage.story.bufferText 0x50 = .ok [98, 44, 99, 32, 100] := by
    decide +kernel
  have searchable : parsingImage.story.Searchable 0x70 := by decide +kernel
  have dynamic : (parsingImage.story.parseRegion 0x60).stop ≤
      parsingImage.story.memory.staticMark := by decide +kernel
  obtain ⟨separators, -, -, after, separated, -, ran, -, rfl, count, entries, -⟩ :=
    tokenise_fills_parse_buffer true (by decide) readable searchable dynamic (by decide +kernel)
  obtain rfl : separators = [44] := by
    have same : parsingImage.story.separators 0x70 = .ok [44] := by decide +kernel
    exact Except.ok.inj (separated.symm.trans same)
  have capacity : (parsingImage.story.memory.byteAt 0x60).toNat = 2 := by decide +kernel
  obtain ⟨entry, found, known⟩ := entries 0 ⟨0, [98]⟩ rfl (by omega)
  obtain rfl : entry = some 0x75 := by
    have same : parsingImage.story.lookup? 0x70 [98] = .ok (some 0x75) := by decide +kernel
    exact Except.ok.inj (found.symm.trans same)
  obtain ⟨entry, found, unknown⟩ := entries 1 ⟨1, [44]⟩ rfl (by omega)
  obtain rfl : entry = none := by
    have same : parsingImage.story.lookup? 0x70 [44] = .ok none := by decide +kernel
    exact Except.ok.inj (found.symm.trans same)
  rw [if_neg (by decide)] at known
  rw [if_pos ⟨rfl, rfl⟩] at unknown
  rw [capacity] at count
  have kept : parsingImage.story.memory.byteAt 0x66 = 7 := by decide +kernel
  exact ⟨readable, searchable, after, ran, count, known.1, known.2.1, known.2.2,
    (unknown 0x66 (by decide)).trans kept⟩

/-- Where a parse buffer that was filled lies apart from the text and from all that lookups read,
each of its entries leads back to the word that was looked up for it: from the noted position on,
as many bytes as the noted length are the letters of the word. The exception is a word that starts
at the 255th character behind an offset of 2. Its position does not fit in a byte, and 0 is noted.
-/
theorem tokens_lead_to_words {text : List Zscii}
    (ran : tokenise textBuffer parseBuffer dictionary false machine = .ok () after)
    (readable : machine.story.bufferText textBuffer = .ok text)
    (apart : ∀ region ∈ ⟨textBuffer, textBuffer + machine.version.textOffset + text.length⟩ ::
        machine.story.lookupRegions dictionary,
      (machine.story.parseRegion parseBuffer).Apart region) :
    ∃ separators, machine.story.separators dictionary = .ok separators ∧
      ∀ index < (after.story.memory.byteAt (parseBuffer + 1)).toNat, ∃ word entry,
        let memory := after.story.memory
        let place := parseBuffer + 2 + 4 * index
        let length := (memory.byteAt (place + 2)).toNat
        let position := (memory.byteAt (place + 3)).toNat
        (Word.split text separators)[index]? = some word ∧
        machine.story.lookup? dictionary word.letters = .ok entry ∧
        memory.wordAt place = UInt16.ofNat (entry.getD 0) ∧
        if .v5 ≤ machine.version ∧ word.start = 254 then
          word.letters.length = 1 ∧ length = 1 ∧ position = 0
        else
          ∃ bytes, memory.readBytes (textBuffer + position) length = .ok bytes ∧
            bytes.map (fun byte => Zscii.toLower byte.toUInt16) = word.letters := by
  obtain ⟨separators, text', separated, readable', filled⟩ := filled_tokenise ran
  obtain rfl : text = text' := Except.ok.inj (readable.symm.trans readable')
  obtain ⟨textApart, lookupsApart⟩ := List.forall_mem_cons.mp apart
  refine ⟨separators, separated, ?_⟩
  intro index counted
  rw [filled.count_eq] at counted
  obtain ⟨word, listed⟩ : ∃ word, (Word.split text separators)[index]? = some word :=
    ⟨_, List.getElem?_eq_getElem (by omega)⟩
  obtain ⟨entry, found, noted⟩ := filled.entry lookupsApart listed (by omega)
  rw [Story.Noted, if_pos (.inr (by decide))] at noted
  obtain ⟨address, length, position⟩ := Memory.token_of_holds noted
  refine ⟨word, entry, listed, found, address, ?_⟩
  have spells := Word.spells_split text separators word (List.mem_of_getElem? listed)
  have positive := List.length_pos_iff.mpr spells.nonempty
  have short := Story.stop_le_of_bufferText readable listed
  have length_eq : word.letters.length % 2 ^ 8 = word.letters.length := by omega
  have position_eq := Word.position_byte (by omega : word.start < 255) machine.version
  have version : machine.story.version = machine.version := rfl
  rw [length, position, UInt8.toNat_ofNat', length_eq, version, position_eq]
  split
  next last => omega
  next fits =>
    rw [← Nat.add_assoc]
    obtain ⟨bytes, rfl, -, held⟩ := Story.holds_of_bufferText readable
    have kept : after.story.memory.Holds (textBuffer + machine.version.textOffset) bytes := by
      refine filled.changed_parseRegion.holds (fun index inside => textApart.not_mem ?_) held
      rw [Region.mem_mk, List.length_map]
      omega
    refine ⟨(bytes.drop word.start).take word.letters.length,
      Memory.readBytes_eq_ok_iff.mpr ⟨?_, kept.slice _ _⟩, ?_⟩
    · have inside := spells.inside
      rw [List.length_map] at inside
      rw [List.length_take, List.length_drop]
      omega
    · have letters := spells.letters
      rw [← List.map_drop, ← List.map_take, List.map_map] at letters
      exact letters

theorem tokens_lead_to_words_parsingImage :
    ∃ after, tokenise 0x50 0x60 0x70 false parsingImage = .ok () after ∧
      1 < (after.story.memory.byteAt 0x61).toNat ∧
      ∃ bytes, after.story.memory.readBytes (0x50 + (after.story.memory.byteAt 0x69).toNat)
          (after.story.memory.byteAt 0x68).toNat = .ok bytes ∧
        bytes.map (fun byte => Zscii.toLower byte.toUInt16) = [44] := by
  have readable : parsingImage.story.bufferText 0x50 = .ok [98, 44, 99, 32, 100] := by
    decide +kernel
  have apart : ∀ region ∈ ⟨0x50, 0x50 + parsingImage.version.textOffset + 5⟩ ::
      parsingImage.story.lookupRegions 0x70,
      (parsingImage.story.parseRegion 0x60).Apart region := by decide +kernel
  obtain ⟨after, ran, counted⟩ : ∃ after,
      tokenise 0x50 0x60 0x70 false parsingImage = .ok () after ∧
        1 < (after.story.memory.byteAt 0x61).toNat := by
    have works : failure? (tokenise 0x50 0x60 0x70 false parsingImage) = none ∧
        1 < ((finalState (tokenise 0x50 0x60 0x70 false parsingImage)).story.memory.byteAt
          0x61).toNat := by decide +kernel
    cases ran : tokenise 0x50 0x60 0x70 false parsingImage with
    | ok value after =>
      rw [ran] at works
      exact ⟨after, rfl, works.2⟩
    | error error after =>
      rw [ran] at works
      cases works.1
  obtain ⟨separators, separated, leads⟩ := tokens_lead_to_words ran readable apart
  obtain rfl : separators = [44] := by
    have same : parsingImage.story.separators 0x70 = .ok [44] := by decide +kernel
    exact Except.ok.inj (separated.symm.trans same)
  obtain ⟨word, entry, listed, -, -, bytes⟩ := leads 1 counted
  obtain rfl : ⟨1, [44]⟩ = word := Option.some.inj listed
  rw [if_neg (by decide)] at bytes
  exact ⟨after, ran, counted, bytes⟩

/-- A memory whose text buffer at 0x40 has 254 spaces and an x, whose parse buffer at 0x144 has room
for one word, and whose dictionary at 0x150 is empty. -/
def lastLetterMemory : Memory where
  bytes := (List.replicate 0x40 (0 : UInt8) ++ [255, 255] ++ List.replicate 254 32 ++
    [120, 0, 0, 0, 1] ++ List.replicate 11 0 ++ [0, 6, 0, 0]).toArray
  staticMark := 0x150
  fileLength := 0
  pristine := Array.replicate 0x150 0
  header_le_mark := by decide
  mark_le_size := by decide +kernel
  pristine_size := by simp

def lastLetterImage : Machine MemoryStore :=
  { Machine.ofBytes .v5 [] with story := ⟨⟨.v5, 0, 0⟩, lastLetterMemory⟩ }

/-- One word is noted, the x, with no entry, its length 1 and the position 0, where the text buffer
has its capacity. -/
theorem last_token_misses_word :
    let text := List.replicate 254 32 ++ [120]
    let ended := tokenise 0x40 0x144 0x150 false lastLetterImage
    let memory := (finalState ended).story.memory
    lastLetterImage.story.bufferText 0x40 = .ok text ∧ Word.split text [] = [⟨254, [120]⟩] ∧
      (∀ region ∈ ⟨0x40, 0x42 + text.length⟩ :: lastLetterImage.story.lookupRegions 0x150,
        (lastLetterImage.story.parseRegion 0x144).Apart region) ∧
      failure? ended = none ∧ memory.readBytes 0x145 5 = .ok [1, 0, 0, 1, 0] ∧
      memory.readBytes (0x40 + 0) 1 = .ok [255] := by
  decide +kernel

end Engine

end StoryMachine
