import StoryMachine.Object.Tree
import StoryMachine.Proofs.Writes

/-! The links of objects in memory. Each link of each object has bytes of its own, away from the
header, so setting one link changes that link and no other. Early versions keep a link in a byte and
later ones in a word; nothing beyond this module depends on which. -/

namespace StoryMachine

abbrev Links := Link → Nat → Nat

def Links.set (links : Links) (link : Link) (object value : Nat) : Links := fun other place =>
  if other = link ∧ place = object then value else links other place

theorem Links.set_same (links : Links) (link : Link) (object value : Nat) :
    links.set link object value link object = value := by
  simp [set]

theorem Links.set_link (links : Links) {link other : Link} (different : other ≠ link)
    (object value place : Nat) : links.set link object value other place = links other place := by
  simp [set, different]

theorem Links.set_object (links : Links) (link other : Link) {object place : Nat}
    (different : place ≠ object) (value : Nat) :
    links.set link object value other place = links other place := by
  simp [set, different]

theorem Links.set_le {links : Links} {among : Nat → Prop} {limit value : Nat}
    (small : value ≤ limit) (bounded : ∀ link object, among object → links link object ≤ limit)
    (link : Link) (object : Nat) :
    ∀ other place, among place → links.set link object value other place ≤ limit := by
  intro other place member
  rw [set]
  split
  · exact small
  · exact bounded other place member

/-- Objects are numbered from 1. -/
def IsObject (count object : Nat) : Prop :=
  1 ≤ object ∧ object ≤ count

def Version.linkWidth (version : Version) : Nat :=
  if version < .v4 then 1 else 2

namespace Story

/-- The links as they are read from memory, and 0 where there is no entry. -/
def links (story : Story) : Links := fun link object =>
  (story.link link object).toOption.getD 0

/-- Where the entry of an object is, whether or not memory reaches that far. -/
def entryAddress (story : Story) (object : Nat) : Nat :=
  (story.memory.headerWord .objectTable).toNat + story.version.propertyDefaults * 2 +
    story.version.objectEntrySize * (object - 1)

def linkAddress (story : Story) (link : Link) (object : Nat) : Nat :=
  story.entryAddress object + link.offset story.version

def HasEntry (story : Story) (object : Nat) : Prop :=
  1 ≤ object ∧ object ≤ story.version.maxObject ∧
    story.entryAddress object + story.version.objectEntrySize ≤ story.memory.size

instance (story : Story) (object : Nat) : Decidable (story.HasEntry object) :=
  inferInstanceAs (Decidable (_ ∧ _ ∧ _))

def LinkWritable (story : Story) (link : Link) (object : Nat) : Prop :=
  story.linkAddress link object + story.version.linkWidth ≤ story.memory.staticMark

instance (story : Story) (link : Link) (object : Nat) :
    Decidable (story.LinkWritable link object) :=
  inferInstanceAs (Decidable (_ ≤ _))

/-- The objects up to `count` have their entries in dynamic memory, in a table that starts after
the header. -/
structure HasObjects (story : Story) (count : Nat) : Prop where
  afterHeader : headerSize ≤ (story.memory.headerWord .objectTable).toNat
  dynamic : ∀ object, IsObject count object →
    story.entryAddress object + story.version.objectEntrySize ≤ story.memory.staticMark
  numbered : count ≤ story.version.maxObject

def InLink (story : Story) (count address : Nat) : Prop :=
  ∃ link object, IsObject count object ∧ story.linkAddress link object ≤ address ∧
    address < story.linkAddress link object + story.version.linkWidth

abbrev SameButLinks (count : Nat) (before after : Story) : Prop :=
  ChangedOnly (before.InLink count) before after

/-- Different links have no byte in common. -/
theorem linkAddress_apart (story : Story) {count first second : Nat}
    (isFirst : IsObject count first) (isSecond : IsObject count second) (link other : Link)
    (different : ¬ (other = link ∧ second = first)) :
    story.linkAddress link first + story.version.linkWidth ≤ story.linkAddress other second ∨
      story.linkAddress other second + story.version.linkWidth ≤ story.linkAddress link first := by
  obtain ⟨low, -⟩ := isFirst
  obtain ⟨low', -⟩ := isSecond
  simp only [linkAddress, entryAddress, Link.offset, Version.linkWidth, Version.objectEntrySize]
  by_cases early : story.version < .v4
  all_goals simp only [early, ite_true, ite_false]
  all_goals cases link <;> cases other
  all_goals simp only [true_and, false_and, reduceCtorEq, not_false_eq_true] at different
  all_goals dsimp only; omega

/-- A link lies after the header, whatever the table is, and within the entry. -/
theorem linkAddress_bounds (story : Story) (link : Link) (object : Nat) :
    headerSize ≤ story.linkAddress link object ∧
      story.linkAddress link object + story.version.linkWidth ≤
        story.entryAddress object + story.version.objectEntrySize := by
  simp only [headerSize, linkAddress, entryAddress, Link.offset, Version.linkWidth,
    Version.objectEntrySize, Version.propertyDefaults]
  by_cases early : story.version < .v4
  all_goals simp only [early, ite_true, ite_false]
  all_goals cases link <;> dsimp only <;> omega

theorem objectAddress_eq_ok_iff {story : Story} {object address : Nat} :
    story.objectAddress object = .ok address ↔
      story.HasEntry object ∧ address = story.entryAddress object := by
  rw [objectAddress, HasEntry]
  split
  next invalid =>
    constructor
    · intro failed
      cases failed
    · rintro ⟨⟨low, high, -⟩, -⟩
      omega
  next valid =>
    dsimp only
    rw [← entryAddress]
    split
    next beyond =>
      constructor
      · intro failed
        cases failed
      · rintro ⟨⟨-, -, inside⟩, -⟩
        omega
    next inside =>
      rw [Except.ok.injEq]
      constructor
      · rintro rfl
        exact ⟨by omega, rfl⟩
      · rintro ⟨-, rfl⟩
        rfl

section Entry

variable {story : Story} {object : Nat} (entry : story.HasEntry object)
include entry

theorem HasEntry.objectAddress : story.objectAddress object = .ok (story.entryAddress object) :=
  objectAddress_eq_ok_iff.mpr ⟨entry, rfl⟩

/-- A link as its bytes have it. -/
theorem link_eq (link : Link) :
    story.link link object = .ok (if story.version < .v4 then
      (story.memory.byteAt (story.linkAddress link object)).toNat
      else (story.memory.wordAt (story.linkAddress link object)).toNat) := by
  have within := (linkAddress_bounds story link object).2
  have inside := entry.2.2
  simp only [Story.link, entry.objectAddress, bind, Except.bind, pure, Except.pure]
  simp only [linkAddress, Version.linkWidth] at within ⊢
  by_cases early : story.version < .v4
  · simp only [early, ite_true] at within ⊢
    rw [Memory.readByte, if_pos (by omega)]
  · simp only [early, ite_false] at within ⊢
    rw [Memory.readWord, if_pos (by omega)]

theorem HasEntry.link_ok (link : Link) :
    story.link link object = .ok (story.links link object) := by
  rw [links, link_eq entry link]
  rfl

theorem byteAt_linkAddress_toNat (link : Link) :
    story.links link object = if story.version < .v4 then
      (story.memory.byteAt (story.linkAddress link object)).toNat
      else (story.memory.wordAt (story.linkAddress link object)).toNat := by
  rw [links, link_eq entry link]
  rfl

end Entry

section Layout

variable {story : Story} {count : Nat} (has : story.HasObjects count)
include has

theorem HasObjects.linkWritable {object : Nat} (isObject : IsObject count object) (link : Link) :
    story.LinkWritable link object :=
  Nat.le_trans (linkAddress_bounds story link object).2 (has.dynamic object isObject)

theorem HasObjects.hasEntry {object : Nat} (isObject : IsObject count object) :
    story.HasEntry object :=
  ⟨isObject.1, Nat.le_trans isObject.2 has.numbered,
    Nat.le_trans (has.dynamic object isObject) story.memory.mark_le_size⟩

theorem objectAddress_eq {object : Nat} (isObject : IsObject count object) :
    story.objectAddress object = .ok (story.entryAddress object) :=
  (has.hasEntry isObject).objectAddress

theorem link_ok {object : Nat} (isObject : IsObject count object) (link : Link) :
    story.link link object = .ok (story.links link object) :=
  (has.hasEntry isObject).link_ok link

end Layout

/-- The header does not overlap the links. -/
theorem not_inLink_header {story : Story} {count address : Nat} (header : address < headerSize) :
    ¬ story.InLink count address := by
  rintro ⟨link, object, isObject, low, -⟩
  have above := (linkAddress_bounds story link object).1
  omega

namespace ChangedOnly

variable {touched : Nat → Prop} {before after : Story}
  (only : ChangedOnly touched before after) (header : ∀ address < headerSize, ¬ touched address)
include only header

theorem objectTable :
    after.memory.headerWord .objectTable = before.memory.headerWord .objectTable :=
  only.wordAt (header _ (by decide)) (header _ (by decide))

theorem entryAddress (object : Nat) : after.entryAddress object = before.entryAddress object := by
  simp only [Story.entryAddress, only.objectTable header, only.version]

theorem linkAddress (link : Link) (object : Nat) :
    after.linkAddress link object = before.linkAddress link object := by
  simp only [Story.linkAddress, only.entryAddress header, only.version]

theorem hasEntry_iff (object : Nat) : after.HasEntry object ↔ before.HasEntry object := by
  simp only [HasEntry, only.entryAddress header, only.version, only.size]

theorem linkWritable_iff (link : Link) (object : Nat) :
    after.LinkWritable link object ↔ before.LinkWritable link object := by
  simp only [LinkWritable, only.linkAddress header, only.version, only.staticMark]

end ChangedOnly

namespace SameButLinks

variable {count : Nat} {before after final : Story}

theorem hasObjects (same : SameButLinks count before after) (has : before.HasObjects count) :
    after.HasObjects count where
  afterHeader := by
    rw [ChangedOnly.objectTable same fun _ => not_inLink_header]
    exact has.afterHeader
  dynamic object isObject := by
    rw [ChangedOnly.entryAddress same fun _ => not_inLink_header, same.version, same.staticMark]
    exact has.dynamic object isObject
  numbered := by rw [same.version]; exact has.numbered

theorem inLink (same : SameButLinks count before after) (address : Nat) :
    after.InLink count address ↔ before.InLink count address := by
  simp only [InLink, ChangedOnly.linkAddress same fun _ => not_inLink_header, same.version]

theorem trans (first : SameButLinks count before after) (second : SameButLinks count after final) :
    SameButLinks count before final :=
  ChangedOnly.trans first (second.mono fun address => (first.inLink address).mp)

end SameButLinks

structure Relinked (count : Nat) (before after : Story) (links : Links) : Prop where
  same : SameButLinks count before after
  links : ∀ link object, IsObject count object → after.links link object = links link object

theorem Relinked.refl (count : Nat) (story : Story) : Relinked count story story story.links :=
  ⟨.refl _ story, fun _ _ _ => rfl⟩

theorem Relinked.link_ok {count : Nat} {before after : Story} {links : Links}
    (relinked : Relinked count before after links) (has : before.HasObjects count) {object : Nat}
    (isObject : IsObject count object) (link : Link) :
    after.link link object = .ok (links link object) := by
  rw [Story.link_ok (relinked.same.hasObjects has) isObject, relinked.links link object isObject]

end Story

namespace Update
open Story

def linkWritten (story : Story) (link : Link) (object value : Nat) : Story :=
  { story with memory := if story.version < .v4 then
      story.memory.put (story.linkAddress link object) (UInt8.ofNat value)
    else story.memory.putWord (story.linkAddress link object) (UInt16.ofNat value) }

/-- Writing a link touches the bytes of that link only. -/
theorem changedOnly_linkWritten (story : Story) (link : Link) (object value : Nat) :
    ChangedOnly (fun address => story.linkAddress link object ≤ address ∧
        address < story.linkAddress link object + story.version.linkWidth)
      story (linkWritten story link object value) := by
  simp only [linkWritten, Version.linkWidth]
  split
  · exact .put _ story ⟨Nat.le_refl _, Nat.lt_succ_self _⟩ _
  · exact .putWord _ story ⟨Nat.le_refl _, by omega⟩ ⟨Nat.le_succ _, Nat.lt_succ_self _⟩ _

theorem setLink_of_writable {story : Story} {object : Nat} (entry : story.HasEntry object)
    {link : Link} (writable : story.LinkWritable link object) (value : Nat) :
    setLink link object value story = .ok () (linkWritten story link object value) := by
  rw [setLink, bind_of_ok (query_of_ok entry.objectAddress), get_bind]
  simp only [LinkWritable, linkWritten, linkAddress, Version.linkWidth] at writable ⊢
  by_cases early : story.version < .v4
  · simp only [early, ite_true] at writable ⊢
    rw [writeByte_eq, if_pos (Nat.lt_of_succ_le writable)]
  · simp only [early, ite_false] at writable ⊢
    rw [writeWord_eq, if_pos (Nat.lt_of_succ_le writable)]

theorem setLink_of_not_writable {story : Story} {object : Nat} (entry : story.HasEntry object)
    {link : Link} (fixed : ¬ story.LinkWritable link object) (value : Nat) :
    ∃ error, setLink link object value story = .error error story := by
  rw [setLink, bind_of_ok (query_of_ok entry.objectAddress), get_bind]
  simp only [LinkWritable, linkAddress, Version.linkWidth] at fixed ⊢
  by_cases early : story.version < .v4
  · simp only [early, ite_true] at fixed ⊢
    rw [writeByte_eq, if_neg (by omega)]
    exact ⟨_, rfl⟩
  · simp only [early, ite_false] at fixed ⊢
    rw [writeWord_eq, if_neg (by omega)]
    exact ⟨_, rfl⟩

section Written

variable {story : Story} {object place : Nat} (entry : story.HasEntry object)
  (entry' : story.HasEntry place) (link : Link)
include entry entry'

/-- A written link says what was written, and all others what they said. -/
theorem links_linkWritten {value : Nat} (bounded : value ≤ story.version.maxObject)
    (other : Link) :
    (linkWritten story link object value).links other place =
      story.links.set link object value other place := by
  have only := changedOnly_linkWritten story link object value
  obtain ⟨above, within⟩ := linkAddress_bounds story link object
  have header : ∀ address < headerSize, ¬ (story.linkAddress link object ≤ address ∧
      address < story.linkAddress link object + story.version.linkWidth) := by
    omega
  have inside := entry.2.2
  rw [byteAt_linkAddress_toNat ((only.hasEntry_iff header place).mpr entry'),
    only.linkAddress header, only.version]
  by_cases chosen : other = link ∧ place = object
  · obtain ⟨rfl, rfl⟩ := chosen
    rw [Links.set_same]
    simp only [linkWritten, Version.linkWidth, Version.maxObject] at within bounded ⊢
    by_cases early : story.version < .v4
    · simp only [early, ite_true] at within bounded ⊢
      rw [Memory.byteAt_put (by omega), if_pos rfl, UInt8.toNat_ofNat']
      omega
    · simp only [early, ite_false] at within bounded ⊢
      rw [Memory.wordAt_putWord (by omega), UInt16.toNat_ofNat']
      omega
  · have apart := linkAddress_apart story ⟨entry.1, entry.2.1⟩ ⟨entry'.1, entry'.2.1⟩ link other
      chosen
    have unset : story.links.set link object value other place = story.links other place :=
      if_neg chosen
    rw [unset, byteAt_linkAddress_toNat entry']
    simp only [Version.linkWidth] at apart only
    by_cases early : story.version < .v4
    · simp only [early, ite_true] at apart only ⊢
      rw [only.elsewhere _ (by omega)]
    · simp only [early, ite_false] at apart only ⊢
      rw [only.wordAt (by omega) (by omega)]

end Written

/-- Setting a link of an object succeeds, changes that link, and leaves all else as it was. -/
theorem setLink_ok {before story : Story} {links : Links} {count : Nat}
    (has : before.HasObjects count) (relinked : Relinked count before story links) {object : Nat}
    (isObject : IsObject count object) (link : Link) {value : Nat} (bounded : value ≤ count) :
    ∃ after, setLink link object value story = .ok () after ∧
      Relinked count before after (links.set link object value) := by
  have has' := relinked.same.hasObjects has
  have entry := has'.hasEntry isObject
  have same : SameButLinks count story (linkWritten story link object value) :=
    (changedOnly_linkWritten story link object value).mono
      fun address ⟨low, high⟩ => ⟨link, object, isObject, low, high⟩
  refine ⟨_, setLink_of_writable entry (has'.linkWritable isObject link) value, ?_, ?_⟩
  · exact relinked.same.trans same
  · intro other place isPlace
    rw [links_linkWritten entry (has'.hasEntry isPlace) link
      (Nat.le_trans bounded has'.numbered) other]
    simp only [Links.set, relinked.links other place isPlace]

end Update

end StoryMachine
