import StoryMachine.Object.Property
import StoryMachine.Proofs.ObjectLinks
import StoryMachine.Proofs.StoryErrors

/-! Property lists. An object's properties stand in memory one after the other, each as its size
bytes and its data, with a zero byte at the end. Searching from the front, counting on from one
property to the next, and reading a length back from before the data all see the same list, and
setting a property changes that list in one place. -/

namespace StoryMachine

def Version.maxPropertyLength (version : Version) : Nat :=
  if version < .v4 then 8 else 64

/-- The size bytes of a property. Up to version 3 there is one. Later there is one for a property of
one or two bytes, or there are two for a property of any length, both with the top bit set; the
second gives 64 as 0, and bit 6 of either says nothing. -/
inductive SizeBytes (version : Version) (number length : Nat) : List UInt8 → Prop where
  | early {size : UInt8} (early : version < .v4) (value : size.toNat = 32 * (length - 1) + number) :
      SizeBytes version number length [size]
  | short {size : UInt8} (late : ¬ version < .v4) (few : length ≤ 2)
      (value : size.toNat = 64 * (length - 1) + number) : SizeBytes version number length [size]
  | long {first second : UInt8} (late : ¬ version < .v4) (marked : 0x80 ≤ first.toNat)
      (value : first.toNat % 64 = number) (last : 0x80 ≤ second.toNat)
      (size : second.toNat % 64 = length % 64) : SizeBytes version number length [first, second]

def valueBytes (length : Nat) (value : UInt16) : List UInt8 :=
  if length = 1 then [lowByte value] else [highByte value, lowByte value]

theorem valueBytes_length {length : Nat} (filled : 1 ≤ length) (small : length ≤ 2)
    (value : UInt16) : (valueBytes length value).length = length := by
  rw [valueBytes]
  split
  next one => rw [one]; rfl
  next more => exact (by omega : 2 = length)

structure PropertyEntry (version : Version) where
  number : Nat
  sizes : List UInt8
  data : List UInt8
  positive : 1 ≤ number
  numbered : number ≤ version.maxProperty
  filled : 1 ≤ data.length
  short : data.length ≤ version.maxPropertyLength
  encoded : SizeBytes version number data.length sizes

namespace PropertyEntry

variable {version : Version}

def bytes (entry : PropertyEntry version) : List UInt8 :=
  entry.sizes ++ entry.data

def value? (entry : PropertyEntry version) : Option UInt16 :=
  match entry.data with
  | [byte] => some byte.toUInt16
  | [high, low] => some (word high low)
  | _ => none

def withData (entry : PropertyEntry version) (data : List UInt8)
    (same : data.length = entry.data.length) : PropertyEntry version :=
  { entry with
    data
    filled := same ▸ entry.filled
    short := same ▸ entry.short
    encoded := same ▸ entry.encoded }

@[simp] theorem withData_sizes (entry : PropertyEntry version) {data : List UInt8}
    (same : data.length = entry.data.length) : (entry.withData data same).sizes = entry.sizes := rfl

@[simp] theorem withData_data (entry : PropertyEntry version) {data : List UInt8}
    (same : data.length = entry.data.length) : (entry.withData data same).data = data := rfl

theorem value?_withData (entry : PropertyEntry version) {value : UInt16}
    (same : (valueBytes entry.data.length value).length = entry.data.length) :
    (entry.withData _ same).value? =
      some (if entry.data.length = 1 then (lowByte value).toUInt16 else value) := by
  rw [value?, withData_data, valueBytes]
  by_cases one : entry.data.length = 1
  · rw [if_pos one, if_pos one]
  · simp only [if_neg one, word_bytes]

end PropertyEntry

def propertyBytes {version : Version} (entries : List (PropertyEntry version)) : List UInt8 :=
  entries.flatMap (·.bytes)

structure PropertyList (version : Version) where
  entries : List (PropertyEntry version)
  descending : entries.Pairwise fun first second => second.number < first.number

namespace PropertyList

variable {version : Version}

def numbers (list : PropertyList version) : List Nat :=
  list.entries.map (·.number)

def bytes (list : PropertyList version) : List UInt8 :=
  propertyBytes list.entries ++ [0]

end PropertyList

def Story.propertyStart (story : Story) (table : Nat) : Nat :=
  table + 1 + (story.memory.byteAt table).toNat * 2

/-- An object has these properties, in a table that lies apart from the header, from the default
properties and from the object's entry. -/
structure Story.HasProperties (story : Story) (object table : Nat) {version : Version}
    (list : PropertyList version) : Prop where
  same : story.version = version
  located : story.propertyTable object = .ok table
  holds : story.memory.Holds (story.propertyStart table) list.bytes
  afterHeader : headerSize ≤ table
  apartDefaults :
    story.propertyStart table + list.bytes.length ≤
        (story.memory.headerWord .objectTable).toNat ∨
      (story.memory.headerWord .objectTable).toNat + 2 * version.propertyDefaults ≤ table
  apartEntry :
    story.propertyStart table + list.bytes.length ≤ story.entryAddress object ∨
      story.entryAddress object + version.objectEntrySize ≤ table

instance (story : Story) (object table : Nat) {version : Version} (list : PropertyList version) :
    Decidable (story.HasProperties object table list) :=
  decidable_of_iff (_ ∧ _ ∧ _ ∧ _ ∧ _ ∧ _) ⟨fun ⟨same, located, holds, header, defaults, entry⟩ =>
    ⟨same, located, holds, header, defaults, entry⟩, fun has =>
    ⟨has.same, has.located, has.holds, has.afterHeader, has.apartDefaults, has.apartEntry⟩⟩

/-- Following the next properties from a number on gives these numbers, and then 0. -/
inductive Story.Enumerates (story : Story) (object : Nat) : Nat → List Nat → Prop where
  | last {number : Nat} (next : story.nextProperty object number = .ok 0) :
      Enumerates story object number []
  | more {number following : Nat} {rest : List Nat}
      (next : story.nextProperty object number = .ok following) (nonzero : following ≠ 0)
      (later : Enumerates story object following rest) :
      Enumerates story object number (following :: rest)

section Reading

variable {story : Story} {version : Version} {address number : Nat} {rest : List UInt8}

theorem PropertyEntry.number_lt (entry : PropertyEntry version) :
    (version < .v4 → entry.number < 32) ∧ (¬ version < .v4 → entry.number < 64) := by
  have numbered := entry.numbered
  rw [Version.maxProperty, Version.propertyDefaults] at numbered
  constructor
  · intro early
    rw [if_pos early] at numbered
    omega
  · intro late
    rw [if_neg late] at numbered
    omega

theorem PropertyEntry.length_le (entry : PropertyEntry version) :
    (version < .v4 → entry.data.length ≤ 8) ∧ (¬ version < .v4 → entry.data.length ≤ 64) := by
  have short := entry.short
  rw [Version.maxPropertyLength] at short
  constructor
  · intro early
    rwa [if_pos early] at short
  · intro late
    rwa [if_neg late] at short

theorem longPropertyLength_eq {size : UInt8} {length : Nat} (filled : 1 ≤ length)
    (short : length ≤ 64) (value : size.toNat % 64 = length % 64) :
    longPropertyLength size = length := by
  rw [longPropertyLength]
  split <;> omega

/-- The first size byte has the number, and is not the zero that ends a list. -/
theorem PropertyEntry.first_size (entry : PropertyEntry version)
    (holds : story.memory.Holds address (entry.bytes ++ rest)) :
    ∃ size, story.memory.readByte address = .ok size ∧ size ≠ 0 ∧
      size.toNat % (if version < .v4 then 32 else 64) = entry.number := by
  have positive := entry.positive
  obtain ⟨below, above⟩ := entry.number_lt
  have nonzero {size : UInt8} (value : size.toNat ≠ 0) : size ≠ 0 := by
    rintro rfl
    exact value rfl
  have encoded := entry.encoded
  rw [bytes, List.append_assoc] at holds
  generalize entry.sizes = sizes at encoded holds
  cases encoded with
  | @early size early value =>
    have below := below early
    refine ⟨size, (Memory.holds_cons.mp holds).1, nonzero (by omega), ?_⟩
    rw [if_pos early]
    omega
  | @short size late few value =>
    have above := above late
    refine ⟨size, (Memory.holds_cons.mp holds).1, nonzero (by omega), ?_⟩
    rw [if_neg late]
    omega
  | @long first second late marked value =>
    refine ⟨first, (Memory.holds_cons.mp holds).1, nonzero (by omega), ?_⟩
    rw [if_neg late]
    exact value

theorem early_size {size : UInt8} {number length : Nat} (below : number < 32) (filled : 1 ≤ length)
    (value : size.toNat = 32 * (length - 1) + number) :
    size.toNat % 32 = number ∧ size.toNat / 32 + 1 = length := by
  omega

theorem short_size {size : UInt8} {number length : Nat} (below : number < 64) (filled : 1 ≤ length)
    (few : length ≤ 2) (value : size.toNat = 64 * (length - 1) + number) :
    ¬ 0x80 ≤ size ∧ (0x40 ≤ size ↔ length = 2) ∧ size.toNat % 64 = number := by
  rw [UInt8.le_iff_toNat_le, UInt8.le_iff_toNat_le]
  change ¬ 128 ≤ size.toNat ∧ (64 ≤ size.toNat ↔ length = 2) ∧ size.toNat % 64 = number
  omega

theorem PropertyEntry.propertyAt_eq (entry : PropertyEntry version) (same : story.version = version)
    (holds : story.memory.Holds address (entry.bytes ++ rest)) :
    story.propertyAt address =
      .ok ⟨entry.number, address + entry.sizes.length, entry.data.length⟩ := by
  have filled := entry.filled
  have encoded := entry.encoded
  rw [bytes, List.append_assoc] at holds
  rw [Story.propertyAt, same]
  generalize entry.sizes = sizes at encoded holds ⊢
  cases encoded with
  | @early size early value =>
    obtain ⟨number, length⟩ := early_size (entry.number_lt.1 early) filled value
    simp only [(Memory.holds_cons.mp holds).1, bind, Except.bind, pure, Except.pure, if_pos early,
      number, length, List.length_singleton]
  | @short size late few value =>
    obtain ⟨unmarked, two, number⟩ := short_size (entry.number_lt.2 late) filled few value
    simp only [(Memory.holds_cons.mp holds).1, bind, Except.bind, pure, Except.pure, if_neg late,
      if_neg unmarked, number, two, List.length_singleton]
    split
    next length => rw [length]
    next other =>
      have length : entry.data.length = 1 := by omega
      rw [length]
  | @long first second late marked value last size =>
    obtain ⟨read, later⟩ := Memory.holds_cons.mp holds
    have marked : 0x80 ≤ first := UInt8.le_iff_toNat_le.mpr marked
    simp only [read, (Memory.holds_cons.mp later).1, bind, Except.bind, pure, Except.pure,
      if_neg late, if_pos marked, value,
      longPropertyLength_eq filled (entry.length_le.2 late) size, List.length_cons,
      List.length_nil]

/-- The length is read back from the size byte before the data. -/
theorem PropertyEntry.propertyLength_eq (entry : PropertyEntry version)
    (same : story.version = version)
    (holds : story.memory.Holds address entry.sizes) :
    story.propertyLength (address + entry.sizes.length) = .ok entry.data.length := by
  have filled := entry.filled
  have encoded := entry.encoded
  rw [Story.propertyLength, same]
  generalize entry.sizes = sizes at encoded holds ⊢
  cases encoded with
  | @early size early value =>
    obtain ⟨-, length⟩ := early_size (entry.number_lt.1 early) filled value
    simp only [List.length_singleton, Nat.add_one_ne_zero, ite_false, Nat.add_one_sub_one,
      (Memory.holds_cons.mp holds).1, bind, Except.bind, pure, Except.pure, if_pos early, length]
  | @short size late few value =>
    obtain ⟨unmarked, two, -⟩ := short_size (entry.number_lt.2 late) filled few value
    simp only [List.length_singleton, Nat.add_one_ne_zero, ite_false, Nat.add_one_sub_one,
      (Memory.holds_cons.mp holds).1, bind, Except.bind, pure, Except.pure, if_neg late,
      if_neg unmarked, two]
    split
    next length => rw [length]
    next other =>
      have length : entry.data.length = 1 := by omega
      rw [length]
  | @long first second late marked value last size =>
    obtain ⟨read, later⟩ := Memory.holds_cons.mp holds
    have last : 0x80 ≤ second := UInt8.le_iff_toNat_le.mpr last
    simp only [List.length_cons, List.length_nil, Nat.zero_add, Nat.reduceAdd, Nat.add_eq_zero_iff,
      Nat.reduceEqDiff, and_false, ite_false, Nat.add_succ_sub_one, (Memory.holds_cons.mp later).1,
      bind, Except.bind, pure, Except.pure, if_neg late, if_pos last,
      longPropertyLength_eq filled (entry.length_le.2 late) size]

end Reading

section Searching

variable {story : Story} {version : Version} {address number : Nat}
  {entries before after : List (PropertyEntry version)} {entry : PropertyEntry version}
  {property : Property}

theorem propertyBytes_cons (entry : PropertyEntry version) (rest : List (PropertyEntry version)) :
    propertyBytes (entry :: rest) = entry.bytes ++ propertyBytes rest :=
  List.flatMap_cons

theorem propertyBytes_append (before after : List (PropertyEntry version)) :
    propertyBytes (before ++ after) = propertyBytes before ++ propertyBytes after :=
  List.flatMap_append

theorem PropertyEntry.bytes_length (entry : PropertyEntry version) :
    entry.bytes.length = entry.sizes.length + entry.data.length :=
  List.length_append

theorem Story.findProperty_of_end (read : story.memory.readByte address = .ok 0) (number : Nat) :
    story.findProperty number address = .ok none := by
  obtain ⟨inside, zero⟩ := Memory.readByte_eq_ok_iff.mp read
  rw [findProperty, if_pos ⟨zero, inside⟩]

theorem Story.findProperty_of_property {size : UInt8}
    (read : story.memory.readByte address = .ok size) (nonzero : size ≠ 0)
    (here : story.propertyAt address = .ok property) (number : Nat) :
    story.findProperty number address =
      if property.number = number then .ok (some property)
      else if property.number < number then .ok none
      else story.findProperty number (property.data + property.length) := by
  obtain ⟨inside, rfl⟩ := Memory.readByte_eq_ok_iff.mp read
  rw [findProperty, if_neg fun ended => nonzero ended.1]
  split
  next error failed =>
    rw [here] at failed
    cases failed
  next found same =>
    rw [here] at same
    cases same
    rfl

/-- A search decides at the first entry, or goes on after it. -/
theorem Story.findProperty_cons (same : story.version = version)
    (holds : story.memory.Holds address (propertyBytes (entry :: after) ++ [0])) (number : Nat) :
    story.findProperty number address =
      if entry.number = number then
        .ok (some ⟨entry.number, address + entry.sizes.length, entry.data.length⟩)
      else if entry.number < number then .ok none
      else story.findProperty number (address + entry.bytes.length) := by
  rw [propertyBytes_cons, List.append_assoc] at holds
  obtain ⟨size, read, nonzero, -⟩ := entry.first_size holds
  rw [findProperty_of_property read nonzero (entry.propertyAt_eq same holds), entry.bytes_length,
    Nat.add_assoc]

theorem holds_after_entry
    (holds : story.memory.Holds address (propertyBytes (entry :: after) ++ [0])) :
    story.memory.Holds (address + entry.bytes.length) (propertyBytes after ++ [0]) := by
  rw [propertyBytes_cons, List.append_assoc] at holds
  exact (Memory.holds_append.mp holds).2

theorem Story.findProperty_listed (same : story.version = version)
    (holds : story.memory.Holds address (propertyBytes (before ++ entry :: after) ++ [0]))
    (descending : (before ++ entry :: after).Pairwise fun first second =>
      second.number < first.number) :
    story.findProperty entry.number address = .ok (some ⟨entry.number,
      address + (propertyBytes before).length + entry.sizes.length, entry.data.length⟩) := by
  induction before generalizing address with
  | nil =>
    rw [findProperty_cons same holds, if_pos rfl]
    rfl
  | cons first before ih =>
    obtain ⟨larger, descending⟩ := List.pairwise_cons.mp descending
    -- The numbers before the entry are larger, so neither of them ends the search.
    have larger := larger entry (List.mem_append_right before List.mem_cons_self)
    rw [List.cons_append] at holds
    rw [findProperty_cons same holds, if_neg (by omega), if_neg (by omega),
      ih (holds_after_entry holds) descending, propertyBytes_cons, List.length_append,
      Nat.add_assoc address]

/-- A search for any other number ends where the numbers get too small. -/
theorem Story.findProperty_unlisted (same : story.version = version)
    (holds : story.memory.Holds address (propertyBytes entries ++ [0]))
    (unlisted : ∀ entry ∈ entries, entry.number ≠ number) :
    story.findProperty number address = .ok none := by
  induction entries generalizing address with
  | nil => exact findProperty_of_end (Memory.holds_cons.mp holds).1 number
  | cons first rest ih =>
    obtain ⟨other, unlisted⟩ := List.forall_mem_cons.mp unlisted
    rw [findProperty_cons same holds, if_neg other]
    split
    · rfl
    · exact ih (holds_after_entry holds) unlisted

/-- The byte where properties start has the number of the first, and is 0 if there is none. -/
theorem readByte_first (holds : story.memory.Holds address (propertyBytes entries ++ [0])) :
    ∃ size, story.memory.readByte address = .ok size ∧
      size.toNat % (if version < .v4 then 32 else 64) =
        (entries.head?.map (·.number)).getD 0 := by
  cases entries with
  | nil => exact ⟨0, (Memory.holds_cons.mp holds).1, Nat.zero_mod _⟩
  | cons entry rest =>
    rw [propertyBytes_cons, List.append_assoc] at holds
    obtain ⟨size, read, -, number⟩ := entry.first_size holds
    exact ⟨size, read, number⟩

end Searching

theorem PropertyList.bytes_split {version : Version} {list : PropertyList version}
    {before after : List (PropertyEntry version)} {entry : PropertyEntry version}
    (split : list.entries = before ++ entry :: after) :
    list.bytes =
      (propertyBytes before ++ entry.sizes) ++ (entry.data ++ (propertyBytes after ++ [0])) := by
  rw [bytes, split, propertyBytes_append, propertyBytes_cons, PropertyEntry.bytes]
  simp only [List.append_assoc]

/-- Memory has a list if it has what is before, in and after the data of an entry. -/
theorem PropertyList.holds_iff {version : Version} {list : PropertyList version}
    {before after : List (PropertyEntry version)} {entry : PropertyEntry version}
    (split : list.entries = before ++ entry :: after) {memory : Memory} {start : Nat} :
    memory.Holds start list.bytes ↔
      memory.Holds start (propertyBytes before ++ entry.sizes) ∧
      memory.Holds (start + (propertyBytes before).length + entry.sizes.length) entry.data ∧
      memory.Holds (start + (propertyBytes before).length + entry.sizes.length + entry.data.length)
        (propertyBytes after ++ [0]) := by
  have place : start + (propertyBytes before).length + entry.sizes.length =
      start + (propertyBytes before ++ entry.sizes).length := by
    rw [List.length_append, Nat.add_assoc]
  rw [bytes_split split, place, ← Memory.holds_append, ← Memory.holds_append]

namespace Story

variable {story : Story} {object table address : Nat}

def propertyPointer (story : Story) (object : Nat) : Nat :=
  story.entryAddress object + if story.version < .v4 then 7 else 12

theorem propertyPointer_inside (story : Story) (object : Nat) :
    story.entryAddress object ≤ story.propertyPointer object ∧
      story.propertyPointer object + 2 ≤
        story.entryAddress object + story.version.objectEntrySize := by
  rw [propertyPointer, Version.objectEntrySize]
  split <;> omega

theorem propertyTable_eq_ok_iff : story.propertyTable object = .ok table ↔
    (1 ≤ object ∧ object ≤ story.version.maxObject ∧
      story.entryAddress object + story.version.objectEntrySize ≤ story.memory.size) ∧
      (story.memory.wordAt (story.propertyPointer object)).toNat = table := by
  have place := story.propertyPointer_inside object
  constructor
  · intro located
    obtain ⟨address, found, read⟩ := exists_of_bind_eq_ok located
    obtain ⟨valid, rfl⟩ := objectAddress_eq_ok_iff.mp found
    obtain ⟨value, word, result⟩ := exists_of_bind_eq_ok read
    cases result
    exact ⟨valid, congrArg UInt16.toNat (Memory.readWord_eq_ok_iff.mp word).2⟩
  · rintro ⟨valid, rfl⟩
    have found := objectAddress_eq_ok_iff.mpr ⟨valid, rfl⟩
    have word : story.memory.readWord (story.propertyPointer object) =
        .ok (story.memory.wordAt (story.propertyPointer object)) :=
      Memory.readWord_eq_ok_iff.mpr ⟨by omega, rfl⟩
    rw [propertyPointer] at word ⊢
    simp only [propertyTable, found, word, bind, Except.bind, pure, Except.pure]

theorem ChangedOnly.propertyTable {touched : Nat → Prop} {after : Story}
    (only : ChangedOnly touched story after) (header : ∀ address < headerSize, ¬ touched address)
    (entry : ∀ address, story.entryAddress object ≤ address →
      address < story.entryAddress object + story.version.objectEntrySize → ¬ touched address)
    (located : story.propertyTable object = .ok table) :
    after.propertyTable object = .ok table := by
  obtain ⟨valid, pointed⟩ := propertyTable_eq_ok_iff.mp located
  have entryAt := only.entryAddress header object
  have pointer : after.propertyPointer object = story.propertyPointer object := by
    rw [propertyPointer, propertyPointer, entryAt, only.version]
  have inside := story.propertyPointer_inside object
  refine propertyTable_eq_ok_iff.mpr ⟨by rwa [entryAt, only.version, only.size], ?_⟩
  rw [pointer, only.wordAt (entry _ (by omega) (by omega)) (entry _ (by omega) (by omega)),
    pointed]

namespace HasProperties

variable {version : Version} {list : PropertyList version} {number : Nat}
  {before after : List (PropertyEntry version)} {entry : PropertyEntry version}

section

variable (has : story.HasProperties object table list)
include has

theorem firstProperty_eq : story.firstProperty object = .ok (story.propertyStart table) := by
  obtain ⟨-, ended⟩ := Memory.holds_append.mp has.holds
  obtain ⟨inside, -⟩ := Memory.readByte_eq_ok_iff.mp (Memory.holds_cons.mp ended).1
  have name : story.memory.readByte table = .ok (story.memory.byteAt table) := by
    refine Memory.readByte_eq_ok_iff.mpr ⟨?_, rfl⟩
    rw [propertyStart] at inside
    omega
  simp only [firstProperty, has.located, name, bind, Except.bind, pure, Except.pure, propertyStart]

theorem property?_listed (split : list.entries = before ++ entry :: after) :
    story.property? object entry.number = .ok (some ⟨entry.number,
      story.propertyStart table + (propertyBytes before).length + entry.sizes.length,
      entry.data.length⟩) := by
  have holds := has.holds
  have descending := list.descending
  rw [PropertyList.bytes, split] at holds
  rw [split] at descending
  simp only [property?, has.firstProperty_eq, bind, Except.bind]
  exact findProperty_listed has.same holds descending

theorem property?_unlisted (unlisted : number ∉ list.numbers) :
    story.property? object number = .ok none := by
  simp only [property?, has.firstProperty_eq, bind, Except.bind]
  refine findProperty_unlisted has.same has.holds fun entry member same => unlisted ?_
  exact List.mem_map.mpr ⟨entry, member, same⟩

theorem checkProperty_eq (positive : 1 ≤ number) (numbered : number ≤ version.maxProperty) :
    story.checkProperty object number = .ok () := by
  rw [checkProperty, has.same, if_neg (by omega)]

theorem propertyDataAddress_listed (split : list.entries = before ++ entry :: after) :
    story.propertyDataAddress object entry.number =
      .ok (story.propertyStart table + (propertyBytes before).length + entry.sizes.length) := by
  simp only [propertyDataAddress, has.checkProperty_eq entry.positive entry.numbered,
    has.property?_listed split, bind, Except.bind, pure, Except.pure]

theorem propertyDataAddress_unlisted (positive : 1 ≤ number)
    (numbered : number ≤ version.maxProperty) (unlisted : number ∉ list.numbers) :
    story.propertyDataAddress object number = .ok 0 := by
  simp only [propertyDataAddress, has.checkProperty_eq positive numbered,
    has.property?_unlisted unlisted, bind, Except.bind, pure, Except.pure]

theorem propertyLength_listed (split : list.entries = before ++ entry :: after) :
    story.propertyLength
        (story.propertyStart table + (propertyBytes before).length + entry.sizes.length) =
      .ok entry.data.length :=
  entry.propertyLength_eq has.same
    (Memory.holds_append.mp ((PropertyList.holds_iff split).mp has.holds).1).2

theorem propertyValue_listed (split : list.entries = before ++ entry :: after) :
    story.propertyValue object entry.number =
      match entry.value? with
      | some value => .ok value
      | none => .error (.propertyLength .read entry.number object entry.data.length) := by
  have found := has.property?_listed split
  have data := ((PropertyList.holds_iff split).mp has.holds).2.1
  have filled := entry.filled
  have checked := has.checkProperty_eq entry.positive entry.numbered
  simp only [propertyValue, checked, found, bind, Except.bind, PropertyEntry.value?]
  generalize entry.data = bytes at data filled ⊢
  match bytes with
  | [] => cases filled
  | [byte] => simp only [List.length_singleton, (Memory.holds_cons.mp data).1, pure, Except.pure]
  | [high, low] =>
    obtain ⟨first, rest⟩ := Memory.holds_cons.mp data
    exact Memory.readWord_of_readByte first (Memory.holds_cons.mp rest).1
  | _ :: _ :: _ :: _ => rfl

theorem propertyValue_unlisted (positive : 1 ≤ number) (numbered : number ≤ version.maxProperty)
    (unlisted : number ∉ list.numbers) :
    story.propertyValue object number = .ok (story.memory.wordAt
      ((story.memory.headerWord .objectTable).toNat + (number - 1) * 2)) := by
  obtain ⟨⟨-, -, inside⟩, -⟩ := propertyTable_eq_ok_iff.mp has.located
  have found := has.property?_unlisted unlisted
  have checked := has.checkProperty_eq positive numbered
  rw [Version.maxProperty, ← has.same] at numbered
  -- The defaults stand before the first entry, so the word is in memory because the entry is.
  rw [entryAddress] at inside
  simp only [propertyValue, checked, found, bind, Except.bind, defaultProperty]
  rw [if_neg (by omega)]
  exact Memory.readWord_eq_ok_iff.mpr ⟨by omega, rfl⟩

theorem nextProperty_zero :
    story.nextProperty object 0 = .ok ((list.entries.head?.map (·.number)).getD 0) := by
  obtain ⟨size, read, number⟩ := readByte_first has.holds
  simp only [nextProperty, ite_true, has.firstProperty_eq, read, bind, Except.bind, pure,
    Except.pure, has.same, number]

theorem nextProperty_listed (split : list.entries = before ++ entry :: after) :
    story.nextProperty object entry.number = .ok ((after.head?.map (·.number)).getD 0) := by
  obtain ⟨size, read, number⟩ := readByte_first ((PropertyList.holds_iff split).mp has.holds).2.2
  simp only [nextProperty, Nat.ne_of_gt entry.positive, ite_false, has.property?_listed split, read,
    bind, Except.bind, pure, Except.pure, has.same, number]

theorem nextProperty_unlisted (nonzero : number ≠ 0) (unlisted : number ∉ list.numbers) :
    story.nextProperty object number = .error (.noNextProperty number object) := by
  simp only [nextProperty, nonzero, ite_false, has.property?_unlisted unlisted, bind, Except.bind]
  rfl

theorem enumerates_after (split : list.entries = before ++ entry :: after) :
    story.Enumerates object entry.number (after.map (·.number)) := by
  -- On what comes after the entry; with each step the entry joins those before.
  induction after generalizing before entry with
  | nil => exact .last (has.nextProperty_listed split)
  | cons next after ih =>
    refine .more (has.nextProperty_listed split) (Nat.ne_of_gt next.positive) ?_
    exact ih (split.trans (List.append_cons before entry (next :: after)))

theorem enumerates : story.Enumerates object 0 list.numbers := by
  have first := has.nextProperty_zero
  rw [PropertyList.numbers]
  cases split : list.entries with
  | nil =>
    rw [split] at first
    exact .last first
  | cons entry rest =>
    rw [split] at first
    have listed : list.entries = [] ++ entry :: rest := split
    exact .more first (Nat.ne_of_gt entry.positive) (has.enumerates_after listed)

end

section Setting

theorem exists_withData (split : list.entries = before ++ entry :: after) (data : List UInt8)
    (same : data.length = entry.data.length) :
    ∃ changed : PropertyList version,
      changed.entries = before ++ entry.withData data same :: after := by
  have numbers : (before ++ entry.withData data same :: after).map (·.number) = list.numbers := by
    rw [PropertyList.numbers, split, List.map_append, List.map_append]
    rfl
  have descending : list.numbers.Pairwise (fun first second => second < first) :=
    List.pairwise_map.mpr list.descending
  rw [← numbers] at descending
  exact ⟨⟨_, List.pairwise_map.mp descending⟩, rfl⟩

variable (has : story.HasProperties object table list)
include has

theorem setProperty_unlisted (positive : 1 ≤ number) (numbered : number ≤ version.maxProperty)
    (unlisted : number ∉ list.numbers) (value : UInt16) :
    Update.setProperty object number value story =
      .error (.propertyMissing object number) story := by
  simp only [Update.setProperty, Update.query, bind, EStateM.bind,
    has.checkProperty_eq positive numbered, has.property?_unlisted unlisted]
  rfl

theorem setProperty_long (split : list.entries = before ++ entry :: after)
    (long : 2 < entry.data.length) (value : UInt16) :
    Update.setProperty object entry.number value story =
      .error (.propertyLength .write entry.number object entry.data.length) story := by
  obtain ⟨more, length⟩ := Nat.exists_eq_add_of_le' long
  simp only [Update.setProperty, Update.query, bind, EStateM.bind,
    has.checkProperty_eq entry.positive entry.numbered, has.property?_listed split, length]
  rfl

theorem setProperty_short (split : list.entries = before ++ entry :: after)
    (small : entry.data.length ≤ 2) (value : UInt16) :
    Update.setProperty object entry.number value story =
      if entry.data.length = 1 then
        Update.writeByte (story.propertyStart table + (propertyBytes before).length +
          entry.sizes.length) (lowByte value) story
      else
        Update.writeWord (story.propertyStart table + (propertyBytes before).length +
          entry.sizes.length) value story := by
  have filled := entry.filled
  simp only [Update.setProperty, Update.query, bind, EStateM.bind,
    has.checkProperty_eq entry.positive entry.numbered, has.property?_listed split]
  obtain length | length : entry.data.length = 1 ∨ entry.data.length = 2 := by omega
  · simp only [length, ite_true]
  · rw [length]
    rfl

theorem setProperty_dynamic (split : list.entries = before ++ entry :: after)
    (small : entry.data.length ≤ 2) {data : Nat}
    (place : data =
      story.propertyStart table + (propertyBytes before).length + entry.sizes.length)
    (dynamic : data + entry.data.length ≤ story.memory.staticMark) (value : UInt16) :
    ∃ written, Update.setProperty object entry.number value story = .ok () written ∧
      ChangedOnly (fun address => data ≤ address ∧ address < data + entry.data.length)
        story written ∧
      written.memory.Holds data (valueBytes entry.data.length value) := by
  have filled := entry.filled
  have static : story.memory.staticMark ≤ story.memory.size := story.memory.mark_le_size
  rw [has.setProperty_short split small, ← place, valueBytes]
  obtain length | length : entry.data.length = 1 ∨ entry.data.length = 2 := by omega
  · rw [length] at dynamic ⊢
    refine ⟨{ story with memory := story.memory.put data (lowByte value) }, ?_, ?_, ?_⟩
    · rw [if_pos rfl, Update.writeByte_eq, if_pos (by omega)]
    · exact .put _ story ⟨by omega, by omega⟩ _
    · exact Memory.holds_put (by omega) _
  · rw [length] at dynamic ⊢
    refine ⟨{ story with memory := story.memory.putWord data value }, ?_, ?_, ?_⟩
    · rw [if_neg (by omega), Update.writeWord_eq, if_pos (by omega)]
    · exact .putWord _ story ⟨by omega, by omega⟩ ⟨by omega, by omega⟩ _
    · exact Memory.holds_putWord (by omega) _

theorem setProperty_static (split : list.entries = before ++ entry :: after)
    (small : entry.data.length ≤ 2) {data : Nat}
    (place : data =
      story.propertyStart table + (propertyBytes before).length + entry.sizes.length)
    (static : story.memory.staticMark < data + entry.data.length) (value : UInt16) :
    Update.setProperty object entry.number value story =
      .error (if entry.data.length = 1 then .byteWriteOutside data story.memory.staticMark
        else .wordWriteOutside data story.memory.staticMark) story := by
  have filled := entry.filled
  rw [has.setProperty_short split small, ← place]
  obtain length | length : entry.data.length = 1 ∨ entry.data.length = 2 := by omega
  · rw [length] at static ⊢
    rw [if_pos rfl, if_pos rfl, Update.writeByte_eq, if_neg (by omega)]
  · rw [length] at static ⊢
    rw [if_neg (by omega), if_neg (by omega), Update.writeWord_eq, if_neg (by omega)]

/-- Where the data of one property changes, the object has the changed list. -/
theorem withData (split : list.entries = before ++ entry :: after) {data : Nat}
    (place : data =
      story.propertyStart table + (propertyBytes before).length + entry.sizes.length)
    {bytes : List UInt8} (same : bytes.length = entry.data.length) {written : Story}
    (only : ChangedOnly (fun address => data ≤ address ∧ address < data + entry.data.length)
      story written)
    (stored : written.memory.Holds data bytes) {changed : PropertyList version}
    (entries : changed.entries = before ++ entry.withData bytes same :: after) :
    written.propertyStart table = story.propertyStart table ∧
      written.HasProperties object table changed := by
  -- The data lies between the short name and the end of the list, and the list lies apart from
  -- the header and the entry, so all that leads to the list is still there.
  have bytesOf := PropertyList.bytes_split split
  have bytesNow := PropertyList.bytes_split entries
  have length : changed.bytes.length = list.bytes.length := by
    rw [bytesOf, bytesNow]
    simp only [List.length_append, PropertyEntry.withData_sizes, PropertyEntry.withData_data, same]
  have ends : data + entry.data.length ≤ story.propertyStart table + list.bytes.length := by
    rw [bytesOf, place]
    simp only [List.length_append]
    omega
  have starts : table < data := by
    rw [place, propertyStart]
    omega
  have start : written.propertyStart table = story.propertyStart table := by
    rw [propertyStart, propertyStart, only.elsewhere _ (by omega)]
  have afterHeader := has.afterHeader
  have header : ∀ address < headerSize,
      ¬ (data ≤ address ∧ address < data + entry.data.length) := by
    intro address inside
    omega
  obtain ⟨sizesHeld, -, restHeld⟩ := (PropertyList.holds_iff split).mp has.holds
  refine ⟨start, only.version.trans has.same, ?_, ?_, afterHeader, ?_, ?_⟩
  · refine only.propertyTable header (fun address low high => ?_) has.located
    have apart := has.apartEntry
    rw [has.same] at high
    omega
  · rw [start]
    refine (PropertyList.holds_iff entries).mpr ⟨only.holds ?_ sizesHeld, place ▸ stored, ?_⟩
    · intro index inside
      rw [List.length_append, PropertyEntry.withData_sizes] at inside
      omega
    · rw [PropertyEntry.withData_sizes, PropertyEntry.withData_data, same]
      refine only.holds ?_ restHeld
      intro index inside
      omega
  · rw [start, length, only.objectTable header]
    exact has.apartDefaults
  · rw [start, length, only.entryAddress header]
    exact has.apartEntry

/-- A listed property of one byte or of two is set, and read back. -/
theorem setProperty_listed (split : list.entries = before ++ entry :: after)
    (small : entry.data.length ≤ 2) {data : Nat}
    (place : data =
      story.propertyStart table + (propertyBytes before).length + entry.sizes.length)
    (dynamic : data + entry.data.length ≤ story.memory.staticMark) (value : UInt16) :
    ∃ written, Update.setProperty object entry.number value story = .ok () written ∧
      ChangedOnly (fun address => data ≤ address ∧ address < data + entry.data.length)
        story written ∧
      written.propertyValue object entry.number =
        .ok (if entry.data.length = 1 then (lowByte value).toUInt16 else value) ∧
      ∃ same : (valueBytes entry.data.length value).length = entry.data.length,
        ∃ changed : PropertyList version,
          changed.entries = before ++ entry.withData _ same :: after ∧
          written.propertyStart table = story.propertyStart table ∧
          written.HasProperties object table changed := by
  have same := valueBytes_length entry.filled small value
  obtain ⟨written, ran, only, stored⟩ := has.setProperty_dynamic split small place dynamic value
  obtain ⟨list', entries⟩ := exists_withData split _ same
  obtain ⟨start, now⟩ := has.withData split place same only stored entries
  refine ⟨written, ran, only, ?_, same, list', entries, start, now⟩
  have read := now.propertyValue_listed entries
  rw [PropertyEntry.value?_withData] at read
  exact read

end Setting

end HasProperties

/-- What the accessors answer about a property listed between others, with its data at an
address. -/
structure AnswersListed (story : Story) (object table : Nat) {version : Version}
    (before : List (PropertyEntry version)) (entry : PropertyEntry version)
    (after : List (PropertyEntry version)) (data : Nat) : Prop where
  address : story.propertyDataAddress object entry.number = .ok data
  holds : story.memory.Holds data entry.data
  length : story.propertyLength data = .ok entry.data.length
  next : story.nextProperty object entry.number = .ok ((after.head?.map (·.number)).getD 0)
  value : story.propertyValue object entry.number =
    match entry.value? with
    | some value => .ok value
    | none => .error (.propertyLength .read entry.number object entry.data.length)
  set : entry.data.length ≤ 2 → data + entry.data.length ≤ story.memory.staticMark →
    ∀ value, ∃ written, Update.setProperty object entry.number value story = .ok () written ∧
      ChangedOnly (fun address => data ≤ address ∧ address < data + entry.data.length)
        story written ∧
      written.propertyValue object entry.number =
        .ok (if entry.data.length = 1 then (lowByte value).toUInt16 else value) ∧
      ∃ same : (valueBytes entry.data.length value).length = entry.data.length,
        ∃ changed : PropertyList version,
          changed.entries = before ++ entry.withData _ same :: after ∧
          written.propertyStart table = story.propertyStart table ∧
          written.HasProperties object table changed
  setStatic : entry.data.length ≤ 2 → story.memory.staticMark < data + entry.data.length →
    ∀ value, Update.setProperty object entry.number value story =
      .error (if entry.data.length = 1 then .byteWriteOutside data story.memory.staticMark
        else .wordWriteOutside data story.memory.staticMark) story
  setLong : 2 < entry.data.length → ∀ value,
    Update.setProperty object entry.number value story =
      .error (.propertyLength .write entry.number object entry.data.length) story

/-- What the accessors answer about a property that is not listed. -/
structure AnswersUnlisted (story : Story) (object number : Nat) : Prop where
  address : story.propertyDataAddress object number = .ok 0
  next : story.nextProperty object number = .error (.noNextProperty number object)
  value : story.propertyValue object number =
    .ok (story.memory.wordAt ((story.memory.headerWord .objectTable).toNat + (number - 1) * 2))
  set : ∀ value, Update.setProperty object number value story =
    .error (.propertyMissing object number) story

/-- All accessors see the list that memory has. -/
theorem property_accessors_agree {version : Version} {list : PropertyList version}
    (has : story.HasProperties object table list) :
    (∀ before entry after, list.entries = before ++ entry :: after →
      story.AnswersListed object table before entry after
        (story.propertyStart table + (propertyBytes before).length + entry.sizes.length)) ∧
    (∀ number, 1 ≤ number → number ≤ version.maxProperty → number ∉ list.numbers →
      story.AnswersUnlisted object number) ∧
    story.Enumerates object 0 list.numbers ∧
    ∀ number, number ≠ 0 → number ∉ list.numbers →
      story.nextProperty object number = .error (.noNextProperty number object) := by
  refine ⟨?_, ?_, has.enumerates, fun _ => has.nextProperty_unlisted⟩
  · intro before entry after split
    exact
      { address := has.propertyDataAddress_listed split
        holds := ((PropertyList.holds_iff split).mp has.holds).2.1
        length := has.propertyLength_listed split
        next := has.nextProperty_listed split
        value := has.propertyValue_listed split
        set := fun small dynamic => has.setProperty_listed split small rfl dynamic
        setStatic := fun small static => has.setProperty_static split small rfl static
        setLong := has.setProperty_long split }
  · intro number positive numbered unlisted
    exact
      { address := has.propertyDataAddress_unlisted positive numbered unlisted
        next := has.nextProperty_unlisted (Nat.ne_of_gt positive) unlisted
        value := has.propertyValue_unlisted positive numbered unlisted
        set := has.setProperty_unlisted positive numbered unlisted }

end Story

def mixedProperties : PropertyList .v5 where
  entries :=
    [{ number := 40, sizes := [0xa8, 0x83], data := [1, 2, 3], positive := by decide
       numbered := by decide, filled := by decide, short := by decide
       encoded := .long (by decide) (by decide) rfl (by decide) rfl },
     { number := 20, sizes := [0x54], data := [0x12, 0x34], positive := by decide
       numbered := by decide, filled := by decide, short := by decide
       encoded := .short (by decide) (by decide) rfl },
     { number := 5, sizes := [0x85, 0x81], data := [7], positive := by decide
       numbered := by decide, filled := by decide, short := by decide
       encoded := .long (by decide) (by decide) rfl (by decide) rfl }]
  descending := by decide

/-- A story whose first object has the three properties after a name of one word, and where
property 7 has a default. -/
def mixedImage : Array UInt8 :=
  imageOfBytes 0x100 ([(0x00, 5), (0x0b, 0x40), (0x0f, 0xe0), (0x4c, 0x0b), (0x4d, 0xad),
    (0xcb, 0xcc), (0xcc, 1), (0xcd, 0x94), (0xce, 0xa5)] ++
    mixedProperties.bytes.mapIdx fun index byte => (0xcf + index, byte))

theorem Story.property_accessors_agree_mixedImage :
    ∃ story, (Story.load mixedImage).toOption = some story ∧
      story.HasProperties 1 0xcc mixedProperties ∧
      story.Enumerates 1 0 [40, 20, 5] ∧
      story.nextProperty 1 7 = .error (.noNextProperty 7 1) ∧
      story.propertyDataAddress 1 20 = .ok 0xd5 ∧ story.propertyLength 0xd5 = .ok 2 ∧
      story.propertyValue 1 20 = .ok 0x1234 ∧ story.propertyValue 1 7 = .ok 0x0bad ∧
      story.propertyValue 1 40 = .error (.propertyLength .read 40 1 3) ∧
      ∃ written, Update.setProperty 1 5 0xabcd story = .ok () written ∧
        written.propertyValue 1 5 = .ok 0xcd := by
  have facts : (Story.load mixedImage).toOption.map (fun story =>
      (decide (story.HasProperties 1 0xcc mixedProperties), story.propertyStart 0xcc,
        story.memory.wordAt ((story.memory.headerWord .objectTable).toNat + (7 - 1) * 2),
        story.memory.staticMark)) = some (true, 0xcf, 0x0bad, 0xe0) := by
    decide +kernel
  obtain ⟨story, loaded, facts⟩ := Option.map_eq_some_iff.mp facts
  simp only [Prod.mk.injEq, decide_eq_true_eq] at facts
  obtain ⟨has, start, default, mark⟩ := facts
  obtain ⟨listed, unlisted, enumerated, -⟩ := property_accessors_agree has
  have long := listed [] _ _ rfl
  have middle := listed [mixedProperties.entries[0]] _ _ rfl
  have last := listed [mixedProperties.entries[0], mixedProperties.entries[1]] _ _ rfl
  have absent := unlisted 7 (by decide) (by decide) (by decide)
  rw [start] at middle last
  obtain ⟨written, set, -, read, -⟩ := last.set (by decide) (by rw [mark]; decide) 0xabcd
  refine ⟨story, loaded, has, enumerated, absent.next, middle.address,
    middle.length, middle.value, ?_, long.value, written, set, read⟩
  rw [absent.value, default]

end StoryMachine
