import StoryMachine.Dictionary.Lookup
import StoryMachine.Proofs.TextRoundTrip

/-! Looking up words in dictionaries. Where the entries ascend, halving finds the one entry of a word,
which is the entry that a scan finds; where they are in no order, a scan finds the first. -/

namespace StoryMachine

namespace Memory

def wordsFrom (memory : Memory) (address count : Nat) : List UInt16 :=
  (List.range' address count 2).map memory.wordAt

theorem wordsFrom_succ (memory : Memory) (address count : Nat) :
    memory.wordsFrom address (count + 1) =
      memory.wordAt address :: memory.wordsFrom (address + 2) count := rfl

end Memory

def Version.dictionaryWords (version : Version) : Nat :=
  version.dictionaryWordLength / 3

theorem Version.three_dvd_dictionaryWordLength (version : Version) :
    3 ∣ version.dictionaryWordLength := by
  unfold dictionaryWordLength
  split <;> decide

/-- The dictionary at an address as its bytes give it: the separators after their count, the length
of an entry, the count of the entries, and then the entries. -/
def Story.dictionaryLayout (story : Story) (address : Nat) : Dictionary :=
  let separators := (story.memory.byteAt address).toNat
  { entries := address + separators + 4
    entryLength := (story.memory.byteAt (address + separators + 1)).toNat
    count := (story.memory.wordAt (address + separators + 2)).toInt16.toInt }

namespace Dictionary

def size (dictionary : Dictionary) : Nat :=
  dictionary.count.natAbs

def word (dictionary : Dictionary) (story : Story) (index : Nat) : List UInt16 :=
  story.memory.wordsFrom (dictionary.entry index) story.version.dictionaryWords

def Ascends (dictionary : Dictionary) (story : Story) : Prop :=
  ∀ second < dictionary.size, ∀ first < second,
    dictionary.word story first < dictionary.word story second

instance (dictionary : Dictionary) (story : Story) : Decidable (dictionary.Ascends story) :=
  inferInstanceAs (Decidable (∀ second < dictionary.size, ∀ first < second,
    dictionary.word story first < dictionary.word story second))

/-- A result names the first of the entries from `low` up to `high` that starts with an encoded
word, or says that there is none. -/
inductive Finds (dictionary : Dictionary) (story : Story) (encoded : List UInt16) (low high : Nat) :
    Except Error (Option Nat) → Prop where
  | found {index : Nat} (above : low ≤ index) (below : index < high)
      (here : dictionary.word story index = encoded)
      (first : ∀ earlier, low ≤ earlier → earlier < index →
        dictionary.word story earlier ≠ encoded) :
      Finds dictionary story encoded low high (.ok (some (dictionary.entry index)))
  | missing (nowhere : ∀ index, low ≤ index → index < high →
        dictionary.word story index ≠ encoded) :
      Finds dictionary story encoded low high (.ok none)

variable {dictionary : Dictionary} {story : Story} {encoded : List UInt16}

theorem Finds.unique {low high : Nat} {first second : Except Error (Option Nat)}
    (here : dictionary.Finds story encoded low high first)
    (there : dictionary.Finds story encoded low high second) : first = second := by
  cases here with
  | @found index above below fits early =>
    cases there with
    | @found other above' below' fits' early' =>
      have same : index = other := by
        rcases Nat.lt_trichotomy index other with lower | same | higher
        · exact absurd fits (early' index above lower)
        · exact same
        · exact absurd fits' (early other above' higher)
      rw [same]
    | missing nowhere => exact absurd fits (nowhere index above below)
  | missing nowhere =>
    cases there with
    | @found other above below fits => exact absurd fits (nowhere other above below)
    | missing => rfl

/-- Entries that differ from the word may be left out on either side. -/
theorem Finds.widen {low start stop high : Nat} {result : Except Error (Option Nat)}
    (finds : dictionary.Finds story encoded start stop result) (lower : low ≤ start)
    (upper : stop ≤ high)
    (before : ∀ index, low ≤ index → index < start → dictionary.word story index ≠ encoded)
    (after : ∀ index, stop ≤ index → index < high → dictionary.word story index ≠ encoded) :
    dictionary.Finds story encoded low high result := by
  cases finds with
  | @found index above below fits early =>
    refine .found (Nat.le_trans lower above) (Nat.lt_of_lt_of_le below upper) fits ?_
    intro earlier above below
    rcases Nat.lt_or_ge earlier start with outside | inside
    · exact before earlier above outside
    · exact early earlier inside below
  | missing nowhere =>
    refine .missing fun index above below => ?_
    rcases Nat.lt_or_ge index start with outside | inside
    · exact before index above outside
    · rcases Nat.lt_or_ge index stop with within | outside
      · exact nowhere index inside within
      · exact after index outside below

/-- Only the entries matter, not how they are counted nor where else the story differs. -/
theorem Finds.of_same_entries {other : Story} {count : Int} {high : Nat}
    {result : Except Error (Option Nat)}
    (same : ∀ index < high, dictionary.word other index = dictionary.word story index)
    (finds : { dictionary with count }.Finds other encoded 0 high result) :
    dictionary.Finds story encoded 0 high result := by
  cases finds with
  | @found index above below fits early =>
    refine .found above below ((same index below).symm.trans fits) fun earlier start before => ?_
    rw [← same earlier (by omega)]
    exact early earlier start before
  | missing nowhere =>
    refine .missing fun index start below => ?_
    rw [← same index below]
    exact nowhere index start below

/-- Comparing an entry with an encoded word says how their words compare. -/
theorem compareEntry_cases {memory : Memory} {address : Nat} {encoded : List UInt16}
    (inside : address + 2 * encoded.length ≤ memory.size) :
    let found := memory.wordsFrom address encoded.length
    (found = encoded ∧ compareEntry memory address encoded = .ok .eq) ∨
      (found < encoded ∧ compareEntry memory address encoded = .ok .lt) ∨
      (encoded < found ∧ compareEntry memory address encoded = .ok .gt) := by
  induction encoded generalizing address with
  | nil => exact .inl ⟨rfl, rfl⟩
  | cons expected rest ih =>
    rw [List.length_cons] at inside
    have read : memory.readWord address = .ok (memory.wordAt address) :=
      Memory.readWord_eq_ok_iff.mpr ⟨by omega, rfl⟩
    simp only [compareEntry, read, bind, Except.bind, List.length_cons, Memory.wordsFrom_succ,
      List.cons_lt_cons_iff, List.cons.injEq]
    rcases Nat.lt_trichotomy (memory.wordAt address).toNat expected.toNat with lower | same | higher
    · rw [Nat.compare_eq_lt.mpr lower]
      exact .inr (.inl ⟨.inl (UInt16.lt_iff_toNat_lt.mpr lower), rfl⟩)
    · rw [Nat.compare_eq_eq.mpr same]
      obtain rfl := UInt16.toNat.inj same
      have later : address + 2 + 2 * rest.length ≤ memory.size := by omega
      rcases ih later with ⟨fits, ran⟩ | ⟨less, ran⟩ | ⟨more, ran⟩
      · exact .inl ⟨⟨rfl, fits⟩, ran⟩
      · exact .inr (.inl ⟨.inr ⟨rfl, less⟩, ran⟩)
      · exact .inr (.inr ⟨.inr ⟨rfl, more⟩, ran⟩)
    · rw [Nat.compare_eq_gt.mpr higher]
      exact .inr (.inr ⟨.inl (UInt16.lt_iff_toNat_lt.mpr higher), rfl⟩)

theorem entry_mono (dictionary : Dictionary) {first second : Nat} (ordered : first ≤ second) :
    dictionary.entry first ≤ dictionary.entry second :=
  Nat.add_le_add_left (Nat.mul_le_mul_right _ ordered) _

theorem Ascends.ne_of_lt (ascends : dictionary.Ascends story) {index pivot : Nat}
    (ordered : index ≤ pivot) (counted : pivot < dictionary.size)
    (less : dictionary.word story pivot < encoded) : dictionary.word story index ≠ encoded := by
  rintro rfl
  rcases Nat.eq_or_lt_of_le ordered with rfl | before
  · exact List.lt_irrefl _ less
  · exact List.lt_irrefl _ (List.lt_trans (ascends pivot counted index before) less)

theorem Ascends.ne_of_gt (ascends : dictionary.Ascends story) {pivot index : Nat}
    (ordered : pivot ≤ index) (counted : index < dictionary.size)
    (more : encoded < dictionary.word story pivot) : dictionary.word story index ≠ encoded := by
  rintro rfl
  rcases Nat.eq_or_lt_of_le ordered with rfl | after
  · exact List.lt_irrefl _ more
  · exact List.lt_irrefl _ (List.lt_trans (ascends index counted pivot after) more)

theorem Ascends.unique (ascends : dictionary.Ascends story) {first second : Nat}
    (here : first < dictionary.size) (there : second < dictionary.size)
    (same : dictionary.word story first = dictionary.word story second) : first = second := by
  rcases Nat.lt_trichotomy first second with before | equal | after
  · exact absurd (ascends second there first before) (same ▸ List.lt_irrefl _)
  · exact equal
  · exact absurd (ascends first here second after) (same ▸ List.lt_irrefl _)

section Entries

variable (roomy : story.version.dictionaryWordBytes ≤ dictionary.entryLength)
  (length : encoded.length = story.version.dictionaryWords)

include roomy length

/-- An entry that lies in memory as a whole can be compared. -/
theorem compareEntry_entry {index : Nat} (inside : dictionary.entry (index + 1) ≤ story.memory.size) :
    (dictionary.word story index = encoded ∧
      compareEntry story.memory (dictionary.entry index) encoded = .ok .eq) ∨
    (dictionary.word story index < encoded ∧
      compareEntry story.memory (dictionary.entry index) encoded = .ok .lt) ∨
    (encoded < dictionary.word story index ∧
      compareEntry story.memory (dictionary.entry index) encoded = .ok .gt) := by
  have fits : dictionary.entry index + 2 * encoded.length ≤ story.memory.size := by
    simp only [Version.dictionaryWordBytes, Version.dictionaryWords] at roomy length
    simp only [entry, Nat.succ_mul] at inside ⊢
    omega
  rw [word, ← length]
  exact compareEntry_cases fits

theorem scan_finds {index remaining : Nat}
    (inside : dictionary.entry (index + remaining) ≤ story.memory.size) :
    dictionary.Finds story encoded index (index + remaining)
      (dictionary.scan story.memory encoded index remaining) := by
  induction remaining generalizing index with
  | zero => exact .missing (by omega)
  | succ remaining ih =>
    have whole : dictionary.entry (index + 1) ≤ story.memory.size :=
      Nat.le_trans (dictionary.entry_mono (by omega)) inside
    have passed (differs : dictionary.word story index ≠ encoded) :
        dictionary.Finds story encoded index (index + (remaining + 1))
          (dictionary.scan story.memory encoded (index + 1) remaining) := by
      have later : dictionary.entry (index + 1 + remaining) ≤ story.memory.size := by
        rwa [Nat.add_right_comm]
      refine (ih later).widen (Nat.le_succ _) (by omega) (fun other above below => ?_) (by omega)
      obtain rfl : other = index := by omega
      exact differs
    rw [scan]
    rcases compareEntry_entry roomy length whole with ⟨fits, ran⟩ | ⟨less, ran⟩ | ⟨more, ran⟩
    · simp only [ran, bind, Except.bind, pure, Except.pure]
      exact .found (Nat.le_refl _) (by omega) fits (by omega)
    · simp only [ran, bind, Except.bind]
      exact passed fun same => List.lt_irrefl encoded (same ▸ less)
    · simp only [ran, bind, Except.bind]
      exact passed fun same => List.lt_irrefl encoded (same ▸ more)

/-- Whichever half is dropped, none of its entries has the word. -/
theorem search_finds (ascends : dictionary.Ascends story)
    (inside : dictionary.entry dictionary.size ≤ story.memory.size) {low high : Nat}
    (counted : high ≤ dictionary.size) :
    dictionary.Finds story encoded low high (dictionary.search story.memory encoded low high) := by
  fun_induction search dictionary story.memory encoded low high with
  | case1 low high some pivot ihAbove ihBelow =>
    have whole : dictionary.entry (pivot + 1) ≤ story.memory.size :=
      Nat.le_trans (dictionary.entry_mono (by omega)) inside
    rcases compareEntry_entry roomy length whole with ⟨fits, ran⟩ | ⟨less, ran⟩ | ⟨more, ran⟩
    · simp only [ran, bind, Except.bind, pure, Except.pure]
      refine .found (by omega) (by omega) fits fun earlier above below same => ?_
      have equal := ascends.unique (by omega) (by omega) (same.trans fits.symm)
      omega
    · simp only [ran, bind, Except.bind]
      refine (ihAbove counted).widen (by omega) (Nat.le_refl _) (fun index above below => ?_)
        (by omega)
      exact ascends.ne_of_lt (Nat.le_of_lt_succ below) (by omega) less
    · simp only [ran, bind, Except.bind]
      refine (ihBelow (by omega)).widen (Nat.le_refl _) (by omega) (by omega)
        fun index above below => ?_
      exact ascends.ne_of_gt above (by omega) more
  | case2 low high none => exact .missing (by omega)

end Entries

/-- Ordered or not, the entry of a word is found, as long as the entries ascend where they are said
to be in order. -/
theorem find?_finds (roomy : story.version.dictionaryWordBytes ≤ dictionary.entryLength)
    (length : encoded.length = story.version.dictionaryWords)
    (ordered : 0 < dictionary.count → dictionary.Ascends story)
    (inside : dictionary.entry dictionary.size ≤ story.memory.size) :
    dictionary.Finds story encoded 0 dictionary.size (dictionary.find? story.memory encoded) := by
  rw [find?]
  split
  next positive =>
    have counted : dictionary.count.toNat = dictionary.size := by
      simp only [size]
      omega
    rw [counted]
    exact search_finds roomy length (ordered positive) inside (Nat.le_refl _)
  next =>
    rw [← Nat.zero_add dictionary.size] at inside
    have finds := scan_finds roomy length inside
    rwa [Nat.zero_add] at finds

end Dictionary

theorem ZString.fit_length (length : Nat) (zchars : List ZChar) :
    (fit length zchars).length = length := by
  simp only [fit, List.length_append, List.length_take, List.length_replicate]
  omega

theorem ZString.unpack_length (words : List UInt16) : (unpack words).length = 3 * words.length := by
  induction words with
  | nil => rfl
  | cons word rest ih =>
    rw [unpack] at ih
    simp only [unpack, unpackWord, List.flatMap_cons, List.length_append, ih, List.length_cons,
      List.length_nil]
    omega

theorem ZString.pack_length {zchars : List ZChar} (whole : 3 ∣ zchars.length) :
    3 * (pack zchars).length = zchars.length := by
  rw [← unpack_length, unpack_pack zchars whole]

namespace Story

variable {story : Story} {address : Nat} {alphabet : Alphabet}

/-- A word can be encoded where the alphabet can be read, and then depends on nothing else. -/
theorem encodeDictionaryWord_eq (readable : Alphabet.ofStory story = .ok alphabet)
    (text : List Zscii) :
    story.encodeDictionaryWord text = .ok (ZString.pack (ZString.fit
      story.version.dictionaryWordLength
      (text.flatMap (Encoding.zchars alphabet story.version.shiftScheme)))) := by
  simp only [encodeDictionaryWord, readable, bind, Except.bind, pure, Except.pure]

theorem encodeDictionaryWord_length {text : List Zscii} {encoded : List UInt16}
    (done : story.encodeDictionaryWord text = .ok encoded) :
    encoded.length = story.version.dictionaryWords := by
  cases readable : Alphabet.ofStory story with
  | error error =>
    simp only [encodeDictionaryWord, readable, bind, Except.bind] at done
    cases done
  | ok alphabet =>
    rw [encodeDictionaryWord_eq readable] at done
    cases done
    have whole := story.version.three_dvd_dictionaryWordLength
    rw [← ZString.fit_length story.version.dictionaryWordLength
      (text.flatMap (Encoding.zchars alphabet story.version.shiftScheme))] at whole
    have packed := ZString.pack_length whole
    rw [ZString.fit_length] at packed
    rw [Version.dictionaryWords]
    omega

/-- The dictionary is read as its bytes give it, if its entries have room for a word. -/
theorem dictionary_eq {dictionary : Dictionary}
    (layout : story.dictionaryLayout address = dictionary)
    (roomy : story.version.dictionaryWordBytes ≤ dictionary.entryLength)
    (inside : dictionary.entries ≤ story.memory.size) :
    story.dictionary address = .ok dictionary := by
  subst layout
  simp only [dictionaryLayout] at roomy inside
  have separators : story.memory.readByte address = .ok (story.memory.byteAt address) :=
    Memory.readByte_eq_ok_iff.mpr ⟨by omega, rfl⟩
  have entryLength (place : Nat)
      (here : place = address + (story.memory.byteAt address).toNat + 1) :
      story.memory.readByte place = .ok (story.memory.byteAt place) :=
    Memory.readByte_eq_ok_iff.mpr ⟨by omega, rfl⟩
  have count (place : Nat) (here : place = address + (story.memory.byteAt address).toNat + 2) :
      story.memory.readWord place = .ok (story.memory.wordAt place) :=
    Memory.readWord_eq_ok_iff.mpr ⟨by omega, rfl⟩
  simp only [Story.dictionary, separators, entryLength _ rfl, count _ rfl, bind, Except.bind, pure,
    Except.pure, if_neg (Nat.not_lt.mpr roomy), dictionaryLayout]

theorem lookup?_finds {dictionary : Dictionary}
    (layout : story.dictionaryLayout address = dictionary)
    (roomy : story.version.dictionaryWordBytes ≤ dictionary.entryLength)
    (inside : dictionary.entry dictionary.size ≤ story.memory.size)
    (ordered : 0 < dictionary.count → dictionary.Ascends story) {text : List Zscii}
    {encoded : List UInt16} (done : story.encodeDictionaryWord text = .ok encoded) :
    dictionary.Finds story encoded 0 dictionary.size (story.lookup? address text) := by
  have found := dictionary_eq layout roomy (Nat.le_trans (Nat.le_add_right _ _) inside)
  simp only [lookup?, found, done, bind, Except.bind]
  exact Dictionary.find?_finds roomy (encodeDictionaryWord_length done) ordered inside

/-- Looking up a word always works where the alphabet can be read and the entries lie in memory.
Where they ascend and their count says so, it finds the one entry that starts with the encoded word,
or none, and finds the same if the same entries are stored as unordered. Where they are counted as
unordered, it finds the first such entry, or none. -/
theorem lookup?_finds_entry {dictionary : Dictionary}
    (layout : story.dictionaryLayout address = dictionary)
    (readable : Alphabet.ofStory story = .ok alphabet)
    (roomy : story.version.dictionaryWordBytes ≤ dictionary.entryLength)
    (inside : dictionary.entry dictionary.size ≤ story.memory.size) (text : List Zscii) :
    ∃ encoded, story.encodeDictionaryWord text = .ok encoded ∧
      (0 < dictionary.count → dictionary.Ascends story →
        dictionary.Finds story encoded 0 dictionary.size (story.lookup? address text) ∧
        (∀ first second, first < dictionary.size → second < dictionary.size →
          dictionary.word story first = encoded → dictionary.word story second = encoded →
          first = second) ∧
        ∀ other : Story, other.version = story.version → Alphabet.ofStory other = .ok alphabet →
          other.dictionaryLayout address = { dictionary with count := -dictionary.count } →
          dictionary.entry dictionary.size ≤ other.memory.size →
          (∀ index < dictionary.size,
            dictionary.word other index = dictionary.word story index) →
          other.lookup? address text = story.lookup? address text) ∧
      (dictionary.count < 0 →
        dictionary.Finds story encoded 0 dictionary.size (story.lookup? address text)) := by
  have done := encodeDictionaryWord_eq readable text
  refine ⟨_, done, fun positive ascends => ?_, fun negative => ?_⟩
  · have finds := lookup?_finds layout roomy inside (fun _ => ascends) done
    refine ⟨finds, fun first second here there fits fits' => ?_, ?_⟩
    · exact ascends.unique here there (fits.trans fits'.symm)
    · intro other version readable' layout' inside' same
      have size : Dictionary.size { dictionary with count := -dictionary.count } =
          dictionary.size := Int.natAbs_neg _
      have unordered : ¬ 0 < -dictionary.count := by omega
      have done' := encodeDictionaryWord_eq readable' text
      rw [version] at done'
      have scanned := lookup?_finds layout' (version ▸ roomy) (size ▸ inside')
        (fun ordered => absurd ordered unordered) done'
      rw [size] at scanned
      exact (scanned.of_same_entries same).unique finds
  · exact lookup?_finds layout roomy inside
      (fun positive => absurd positive (Int.lt_asymm negative)) done

/-- A story of version 3 with a dictionary at 0x50 that has the words a, b and c, each with a byte of
data, under a given count. -/
def threeWords (count : UInt8 × UInt8) : Story where
  format := ⟨.v3, 0, 0⟩
  memory := .ofStatic (imageOfBytes 0x68 [(0x50, 1), (0x51, 0x2c), (0x52, 5), (0x53, count.1),
    (0x54, count.2), (0x55, 0x18), (0x56, 0xa5), (0x57, 0x94), (0x58, 0xa5), (0x5a, 0x1c),
    (0x5b, 0xa5), (0x5c, 0x94), (0x5d, 0xa5), (0x5f, 0x20), (0x60, 0xa5), (0x61, 0x94),
    (0x62, 0xa5)]) (by simp [imageOfBytes, headerSize])

theorem lookup?_finds_entry_threeWords :
    let ordered := threeWords (0, 3)
    let unordered := threeWords (0xff, 0xfd)
    ordered.dictionaryLayout 0x50 = ⟨0x55, 5, 3⟩ ∧ unordered.dictionaryLayout 0x50 = ⟨0x55, 5, -3⟩ ∧
      ordered.lookup? 0x50 [98] = .ok (some 0x5a) ∧
      unordered.lookup? 0x50 [98] = ordered.lookup? 0x50 [98] ∧
      ∃ encoded, unordered.encodeDictionaryWord [98] = .ok encoded ∧
        Dictionary.Finds ⟨0x55, 5, -3⟩ unordered encoded 0 3 (unordered.lookup? 0x50 [98]) := by
  intro ordered unordered
  have layout : ordered.dictionaryLayout 0x50 = ⟨0x55, 5, 3⟩ := by decide +kernel
  have layout' : unordered.dictionaryLayout 0x50 = ⟨0x55, 5, -3⟩ := by decide +kernel
  have readable : Alphabet.ofStory ordered = .ok .standard := by decide +kernel
  have readable' : Alphabet.ofStory unordered = .ok .standard := by decide +kernel
  have size : ordered.memory.size = 0x68 := by decide +kernel
  have size' : unordered.memory.size = 0x68 := by decide +kernel
  obtain ⟨encoded, done, sorted, -⟩ :=
    lookup?_finds_entry layout readable (by decide) (by rw [size]; decide) [98]
  obtain ⟨encoded', done', -, scanned⟩ :=
    lookup?_finds_entry layout' readable' (by decide) (by rw [size']; decide) [98]
  obtain ⟨-, -, same⟩ := sorted (by decide) (by decide +kernel)
  have found : ordered.lookup? 0x50 [98] = .ok (some 0x5a) := by decide +kernel
  have again := same unordered (by decide) readable' layout' (by rw [size']; decide)
    (by decide +kernel)
  exact ⟨layout, layout', found, again, encoded', done', scanned (by decide)⟩

end Story

end StoryMachine
