import StoryMachine.Proofs.DictionaryLookup
import StoryMachine.Proofs.Regions
import StoryMachine.Proofs.StoryErrors

/-! What looking up a word reads: the header, the dictionary, and the alphabet table that a story
may bring. Writing elsewhere leaves every lookup as it was, and where all of this lies in memory
and the entries have room for a word, every lookup works. -/

namespace StoryMachine

namespace Story

def alphabetTable? (story : Story) : Option Region :=
  let table := (story.memory.headerWord .alphabetTable).toNat
  if story.version.allowsAlphabetTable ∧ table ≠ 0 then some ⟨table, table + 78⟩ else none

def dictionaryRegion (story : Story) (address : Nat) : Region :=
  let dictionary := story.dictionaryLayout address
  ⟨address, dictionary.entry dictionary.size⟩

def lookupRegions (story : Story) (address : Nat) : List Region :=
  ⟨0, headerSize⟩ :: story.dictionaryRegion address :: story.alphabetTable?.toList

/-- Words can be looked up in the dictionary at an address: its entries have room for a word, and
they lie in memory, as does the alphabet table, if there is one. -/
structure Searchable (story : Story) (address : Nat) : Prop where
  roomy : story.version.dictionaryWordBytes ≤ (story.dictionaryLayout address).entryLength
  inside : ∀ region ∈ story.lookupRegions address, region.stop ≤ story.memory.size

instance (story : Story) (address : Nat) : Decidable (story.Searchable address) :=
  decidable_of_iff (_ ∧ _) ⟨fun both => ⟨both.1, both.2⟩, fun both => ⟨both.roomy, both.inside⟩⟩

/-- No address that lookups may read is touched. -/
def Unread (story : Story) (address : Nat) (touched : Nat → Prop) : Prop :=
  ∀ region ∈ story.lookupRegions address, ∀ place ∈ region, ¬ touched place

theorem stop_of_alphabetTable? {story : Story} {table : Region}
    (custom : story.alphabetTable? = some table) : table.stop = table.start + 78 := by
  rw [alphabetTable?] at custom
  split at custom
  next =>
    cases custom
    rfl
  next => cases custom

theorem alphabet_eq (story : Story) :
    Alphabet.ofStory story =
      if story.version = .v1 then .ok .first
      else match story.alphabetTable? with
        | some table => Alphabet.ofTable story.memory table.start
        | none => .ok .standard := by
  rw [Alphabet.ofStory, alphabetTable?]
  split
  next => rfl
  next =>
    split <;> rfl

theorem dictionaryLayout_entries_le (story : Story) (address : Nat) :
    address + (story.memory.byteAt address).toNat + 4 ≤ (story.dictionaryRegion address).stop := by
  simp only [dictionaryRegion, Dictionary.entry, dictionaryLayout]
  omega

namespace Unread

variable {story : Story} {address : Nat} {touched : Nat → Prop}

theorem mono {wider : Nat → Prop} (unread : story.Unread address wider)
    (inside : ∀ place, touched place → wider place) : story.Unread address touched :=
  fun region known place member hit => unread region known place member (inside place hit)

theorem of_apart {written : Region}
    (apart : ∀ region ∈ story.lookupRegions address, written.Apart region) :
    story.Unread address (· ∈ written) :=
  fun region known _ member => (apart region known).not_mem member

theorem header (unread : story.Unread address touched) {place : Nat} (inside : place < headerSize) :
    ¬ touched place :=
  unread ⟨0, headerSize⟩ (by simp [lookupRegions]) place ⟨Nat.zero_le _, inside⟩

theorem dictionary (unread : story.Unread address touched) {place : Nat} (above : address ≤ place)
    (below : place < (story.dictionaryRegion address).stop) : ¬ touched place :=
  unread (story.dictionaryRegion address) (by simp [lookupRegions]) place ⟨above, below⟩

theorem alphabet (unread : story.Unread address touched) {table : Region}
    (custom : story.alphabetTable? = some table) {place : Nat} (member : place ∈ table) :
    ¬ touched place :=
  unread table (by simp [lookupRegions, custom]) place member

end Unread

section Unchanged

variable {before after : Story} {address : Nat} {touched : Nat → Prop}
  (changed : ChangedOnly touched before after) (unread : before.Unread address touched)

include changed unread

theorem alphabetTable?_unchanged : after.alphabetTable? = before.alphabetTable? := by
  have header : after.memory.headerWord .alphabetTable = before.memory.headerWord .alphabetTable :=
    changed.wordAt (unread.header (by decide)) (unread.header (by decide))
  simp only [alphabetTable?, header, changed.version]

theorem alphabet_unchanged : Alphabet.ofStory after = Alphabet.ofStory before := by
  rw [alphabet_eq, alphabet_eq, alphabetTable?_unchanged changed unread, changed.version]
  cases custom : before.alphabetTable? with
  | none => rfl
  | some table =>
    have read : after.memory.readBytes table.start 78 = before.memory.readBytes table.start 78 := by
      apply changed.readBytes
      rw [← stop_of_alphabetTable? custom]
      exact fun place member => unread.alphabet custom member
    simp only [Alphabet.ofTable, read]

theorem encodeDictionaryWord_unchanged (text : List Zscii) :
    after.encodeDictionaryWord text = before.encodeDictionaryWord text := by
  simp only [encodeDictionaryWord, alphabet_unchanged changed unread, changed.version]

theorem dictionary_unchanged : after.dictionary address = before.dictionary address := by
  have start := before.dictionaryLayout_entries_le address
  have first : after.memory.readByte address = before.memory.readByte address :=
    changed.readByte (unread.dictionary (Nat.le_refl _) (by omega))
  rw [Story.dictionary, Story.dictionary, first, changed.version]
  cases counted : before.memory.readByte address with
  | error error => rfl
  | ok count =>
    obtain ⟨-, rfl⟩ := Memory.readByte_eq_ok_iff.mp counted
    have length (place : Nat)
        (here : place = address + (before.memory.byteAt address).toNat + 1) :
        after.memory.readByte place = before.memory.readByte place :=
      changed.readByte (unread.dictionary (by omega) (by omega))
    have size (place : Nat)
        (here : place = address + (before.memory.byteAt address).toNat + 1 + 1) :
        after.memory.readWord place = before.memory.readWord place :=
      changed.readWord (unread.dictionary (by omega) (by omega))
        (unread.dictionary (by omega) (by omega))
    simp only [bind, Except.bind, length _ rfl, size _ rfl]

end Unchanged

/-- A dictionary that can be read is the one that its bytes give. -/
theorem dictionary_eq_ok {story : Story} {address : Nat} {dictionary : Dictionary}
    (found : story.dictionary address = .ok dictionary) :
    dictionary = story.dictionaryLayout address ∧
      story.version.dictionaryWordBytes ≤ dictionary.entryLength := by
  obtain ⟨count, counted, found⟩ := exists_of_bind_eq_ok found
  obtain ⟨length, measured, found⟩ := exists_of_bind_eq_ok found
  obtain ⟨size, sized, found⟩ := exists_of_bind_eq_ok found
  obtain ⟨-, rfl⟩ := Memory.readByte_eq_ok_iff.mp counted
  obtain ⟨-, rfl⟩ := Memory.readByte_eq_ok_iff.mp measured
  obtain ⟨-, rfl⟩ := Memory.readWord_eq_ok_iff.mp sized
  dsimp only at found
  split at found
  next => cases found
  next roomy =>
    cases found
    exact ⟨rfl, Nat.le_of_not_lt roomy⟩

end Story

namespace Dictionary

variable {dictionary : Dictionary} {memory other : Memory} {encoded : List UInt16}

/-- A scan reads only the entries that it compares. -/
theorem scan_congr {index remaining : Nat}
    (same : ∀ place, index ≤ place → place < index + remaining →
      compareEntry other (dictionary.entry place) encoded =
        compareEntry memory (dictionary.entry place) encoded) :
    dictionary.scan other encoded index remaining =
      dictionary.scan memory encoded index remaining := by
  induction remaining generalizing index with
  | zero => rfl
  | succ remaining ih =>
    have later : dictionary.scan other encoded (index + 1) remaining =
        dictionary.scan memory encoded (index + 1) remaining :=
      ih fun place above below => same place (by omega) (by omega)
    rw [scan, scan, same index (Nat.le_refl _) (by omega), later]

theorem search_congr {low high : Nat}
    (same : ∀ place < high, compareEntry other (dictionary.entry place) encoded =
      compareEntry memory (dictionary.entry place) encoded) :
    dictionary.search other encoded low high = dictionary.search memory encoded low high := by
  fun_induction search dictionary memory encoded low high with
  | case1 low high some pivot ihAbove ihBelow =>
    have here := same pivot (by omega)
    have above := ihAbove same
    have below := ihBelow fun place inside => same place (by omega)
    dsimp only [pivot] at here above below ⊢
    rw [search, if_pos some]
    simp only [here, above, below]
  | case2 low high none => rw [search, if_neg none]

theorem find?_congr
    (same : ∀ place < dictionary.size, compareEntry other (dictionary.entry place) encoded =
      compareEntry memory (dictionary.entry place) encoded) :
    dictionary.find? other encoded = dictionary.find? memory encoded := by
  rw [find?, find?]
  split
  next positive =>
    apply search_congr
    intro place below
    refine same place ?_
    simp only [size]
    omega
  next =>
    apply scan_congr
    intro place _ below
    refine same place ?_
    simp only [size]
    omega

/-- Halving ends in an answer, in whatever order the entries are. -/
theorem search_ok {low high : Nat}
    (compared : ∀ place < high, ∃ order,
      compareEntry memory (dictionary.entry place) encoded = .ok order) :
    ∃ found, dictionary.search memory encoded low high = .ok found := by
  fun_induction search dictionary memory encoded low high with
  | case1 low high some pivot ihAbove ihBelow =>
    obtain ⟨order, ran⟩ := compared pivot (by omega)
    simp only [ran, bind, Except.bind]
    cases order with
    | eq => exact ⟨_, rfl⟩
    | lt => exact ihAbove compared
    | gt => exact ihBelow fun place inside => compared place (by omega)
  | case2 low high none => exact ⟨_, rfl⟩

theorem scan_ok {index remaining : Nat}
    (compared : ∀ place < index + remaining, ∃ order,
      compareEntry memory (dictionary.entry place) encoded = .ok order) :
    ∃ found, dictionary.scan memory encoded index remaining = .ok found := by
  induction remaining generalizing index with
  | zero => exact ⟨_, rfl⟩
  | succ remaining ih =>
    obtain ⟨order, ran⟩ := compared index (by omega)
    have later : ∃ found, dictionary.scan memory encoded (index + 1) remaining = .ok found :=
      ih fun place inside => compared place (by omega)
    simp only [scan, ran, bind, Except.bind]
    cases order with
    | eq => exact ⟨_, rfl⟩
    | lt => exact later
    | gt => exact later

theorem find?_ok
    (compared : ∀ place < dictionary.size, ∃ order,
      compareEntry memory (dictionary.entry place) encoded = .ok order) :
    ∃ found, dictionary.find? memory encoded = .ok found := by
  rw [find?]
  simp only [size] at compared
  split
  next positive => exact search_ok fun place inside => compared place (by omega)
  next => exact scan_ok fun place inside => compared place (by omega)

end Dictionary

namespace Story

section Unchanged

variable {before after : Story} {address : Nat} {touched : Nat → Prop}
  (changed : ChangedOnly touched before after)

include changed

theorem compareEntry_unchanged {place : Nat} {encoded : List UInt16}
    (outside : ∀ byte ∈ Region.mk place (place + 2 * encoded.length), ¬ touched byte) :
    Dictionary.compareEntry after.memory place encoded =
      Dictionary.compareEntry before.memory place encoded := by
  induction encoded generalizing place with
  | nil => rfl
  | cons expected rest ih =>
    simp only [List.length_cons, Region.mem_mk] at outside
    have here : after.memory.readWord place = before.memory.readWord place :=
      changed.readWord (outside _ (by omega)) (outside _ (by omega))
    have later : Dictionary.compareEntry after.memory (place + 2) rest =
        Dictionary.compareEntry before.memory (place + 2) rest := by
      apply ih
      intro byte member
      rw [Region.mem_mk] at member
      exact outside byte (by omega)
    simp only [Dictionary.compareEntry, here, later]

/-- Writing nothing that lookups read leaves every lookup as it was. -/
theorem lookup?_unchanged (unread : before.Unread address touched) (text : List Zscii) :
    after.lookup? address text = before.lookup? address text := by
  rw [lookup?, lookup?, dictionary_unchanged changed unread,
    encodeDictionaryWord_unchanged changed unread]
  cases found : before.dictionary address with
  | error error => rfl
  | ok dictionary =>
    obtain ⟨rfl, roomy⟩ := dictionary_eq_ok found
    cases done : before.encodeDictionaryWord text with
    | error error => rfl
    | ok encoded =>
      simp only [bind, Except.bind]
      apply Dictionary.find?_congr
      intro index counted
      apply compareEntry_unchanged changed
      intro byte member
      have length := encodeDictionaryWord_length done
      have last := (before.dictionaryLayout address).entry_mono (Nat.succ_le_of_lt counted)
      have first := (before.dictionaryLayout address).entry_mono (Nat.zero_le index)
      simp only [Region.mem_mk] at member
      simp only [Version.dictionaryWordBytes, Version.dictionaryWords] at roomy length
      simp only [Dictionary.entry, Nat.succ_mul, Nat.zero_mul] at last first member
      have start := before.dictionaryLayout_entries_le address
      refine unread.dictionary ?_ ?_
      · simp only [dictionaryLayout] at first member ⊢
        omega
      · simp only [dictionaryRegion, Dictionary.entry]
        omega

end Unchanged

theorem Searchable.alphabet_ok {story : Story} {address : Nat}
    (searchable : story.Searchable address) :
    ∃ alphabet, Alphabet.ofStory story = .ok alphabet := by
  rw [alphabet_eq]
  split
  next => exact ⟨_, rfl⟩
  next =>
    cases custom : story.alphabetTable? with
    | none => exact ⟨_, rfl⟩
    | some table =>
      have inside : table.stop ≤ story.memory.size :=
        searchable.inside table (by simp [lookupRegions, custom])
      rw [stop_of_alphabetTable? custom] at inside
      obtain ⟨codes, read⟩ := story.memory.readBytes_ok inside
      simp only [Alphabet.ofTable, read, bind, Except.bind]
      exact ⟨_, rfl⟩

/-- Every word can be looked up in a dictionary that can be searched. -/
theorem Searchable.lookup?_ok {story : Story} {address : Nat}
    (searchable : story.Searchable address)
    (text : List Zscii) : ∃ entry, story.lookup? address text = .ok entry := by
  have inside : (story.dictionaryRegion address).stop ≤ story.memory.size :=
    searchable.inside _ (by simp [lookupRegions])
  have found := dictionary_eq rfl searchable.roomy
    (Nat.le_trans (story.dictionaryLayout_entries_le address) inside)
  obtain ⟨alphabet, readable⟩ := searchable.alphabet_ok
  have done := encodeDictionaryWord_eq readable text
  simp only [lookup?, found, done, bind, Except.bind]
  apply Dictionary.find?_ok
  intro index counted
  have whole := Nat.le_trans
    ((story.dictionaryLayout address).entry_mono (Nat.succ_le_of_lt counted)) inside
  obtain ⟨-, ran⟩ | ⟨-, ran⟩ | ⟨-, ran⟩ := Dictionary.compareEntry_entry searchable.roomy
    (encodeDictionaryWord_length done) whole
  · exact ⟨_, ran⟩
  · exact ⟨_, ran⟩
  · exact ⟨_, ran⟩

theorem Searchable.separators_ok {story : Story} {address : Nat}
    (searchable : story.Searchable address) :
    ∃ separators, story.separators address = .ok separators := by
  have inside : (story.dictionaryRegion address).stop ≤ story.memory.size :=
    searchable.inside _ (by simp [lookupRegions])
  have start := story.dictionaryLayout_entries_le address
  have counted : story.memory.readByte address = .ok (story.memory.byteAt address) :=
    Memory.readByte_eq_ok_iff.mpr ⟨by omega, rfl⟩
  obtain ⟨codes, read⟩ : ∃ codes, story.memory.readBytes (address + 1)
      (story.memory.byteAt address).toNat = .ok codes :=
    story.memory.readBytes_ok (by omega)
  simp only [separators, counted, read, bind, Except.bind]
  exact ⟨_, rfl⟩

end Story

end StoryMachine
