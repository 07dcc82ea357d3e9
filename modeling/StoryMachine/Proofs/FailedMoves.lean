import StoryMachine.Proofs.ObjectLinks
import StoryMachine.Proofs.StoryErrors

/-! Moves of objects that fail. A move first reads what it needs and then writes up to six links,
and it finds out only at each write whether the link lies before the static mark. Where the object
table crosses the mark, a move can fail with some of its links written. -/

namespace StoryMachine

namespace Memory

theorem put_self (memory : Memory) (address : Nat) :
    memory.put address (memory.byteAt address) = memory := by
  have bytes : memory.bytes.setIfInBounds address (memory.bytes.getD address 0) = memory.bytes := by
    apply Array.ext_getElem?
    intro index
    rw [Array.getElem?_setIfInBounds]
    split
    next same =>
      subst same
      split
      next inside => simp [inside]
      next outside => simp [outside]
    next => rfl
  simp only [put, byteAt, imageByte, bytes]

theorem putWord_self (memory : Memory) (address : Nat) :
    memory.putWord address (memory.wordAt address) = memory := by
  have highBound := (memory.byteAt address).toNat_lt
  have lowBound := (memory.byteAt (address + 1)).toNat_lt
  have high : highByte (memory.wordAt address) = memory.byteAt address := by
    apply UInt8.toNat.inj
    rw [highByte, wordAt_eq, word_toNat, UInt8.toNat_ofNat']
    omega
  have low : lowByte (memory.wordAt address) = memory.byteAt (address + 1) := by
    apply UInt8.toNat.inj
    rw [lowByte, wordAt_eq, word_toNat, UInt8.toNat_ofNat']
    omega
  rw [putWord, high, low, put_self, put_self]

end Memory

/-- Entries hold the parent first and the child last. -/
theorem Link.offset_le (version : Version) (link : Link) :
    parent.offset version ≤ link.offset version ∧ link.offset version ≤ child.offset version := by
  simp only [offset]
  split <;> cases link <;> decide

namespace Story

/-- The link that leads to an object: its parent's first child, or the next sibling of the one
before it. -/
def leading (story : Story) (object : Nat) : Except Error (Link × Nat) := do
  let parent ← story.parent object
  let first ← story.child parent
  if first = object then
    return (.child, parent)
  else
    let previous ← story.previousSibling object parent story.walkLimit first
    return (.sibling, previous)

def Detachable (story : Story) (object : Nat) : Prop :=
  ∃ link place, story.leading object = .ok (link, place) ∧ story.LinkWritable link place

/-- A removal fails after a change. It takes the object out of the chain of siblings, but cannot
clear the object's own links. If the object is its own next sibling, the first write changes
nothing, and there is a change only if the parent can be cleared. -/
def TornRemoval (story : Story) (object : Nat) : Prop :=
  story.Detachable object ∧ ¬ story.LinkWritable .sibling object ∧
    (story.LinkWritable .parent object ∨ story.links .sibling object ≠ object)

/-- An insertion fails after a change. Either the removal does, or the destination cannot take the
object, after it was taken out of its place or was given another sibling. -/
def TornInsertion (story : Story) (object destination : Nat) : Prop :=
  story.HasEntry object ∧ story.HasEntry destination ∧
    story.isAncestor object story.walkLimit destination = .ok false ∧
    (story.TornRemoval object ∨
      ¬ story.LinkWritable .child destination ∧ story.LinkWritable .sibling object ∧
        (story.Detachable object ∨ story.links .parent object = 0 ∧
          story.links .sibling object ≠ story.links .child destination))

/-- The links of all entries can be written, or none can. -/
def TableOnOneSide (story : Story) : Prop :=
  (∀ object, story.HasEntry object → story.LinkWritable .child object) ∨
    ∀ object, story.HasEntry object → ¬ story.LinkWritable .parent object

/-- A result is a failure that left other bytes in memory than there were. -/
def FailsHalfway (story : Story) (result : EStateM.Result Error Story Unit) : Prop :=
  ∃ error after, result = .error error after ∧ after.memory.bytes ≠ story.memory.bytes

theorem not_failsHalfway_ok (story after : Story) : ¬ story.FailsHalfway (.ok () after) := by
  rintro ⟨error, final, ⟨⟩, -⟩

theorem failsHalfway_error_iff (story : Story) (error : Error) (after : Story) :
    story.FailsHalfway (.error error after) ↔ after.memory.bytes ≠ story.memory.bytes := by
  constructor
  · rintro ⟨error, final, ⟨⟩, changed⟩
    exact changed
  · intro changed
    exact ⟨error, after, rfl, changed⟩

theorem not_failsHalfway_error (story : Story) (error : Error) :
    ¬ story.FailsHalfway (.error error story) := by
  rw [failsHalfway_error_iff]
  exact fun changed => changed rfl

theorem hasEntry_of_link {story : Story} {link : Link} {object value : Nat}
    (read : story.link link object = .ok value) : story.HasEntry object := by
  obtain ⟨address, found, -⟩ := exists_of_bind_eq_ok read
  exact (objectAddress_eq_ok_iff.mp found).1

theorem links_of_link {story : Story} {link : Link} {object value : Nat}
    (read : story.link link object = .ok value) : story.links link object = value := by
  rw [links, read]
  rfl

theorem hasEntry_of_links {story : Story} {link : Link} {object : Nat}
    (linked : story.links link object ≠ 0) : story.HasEntry object := by
  by_contra missing
  apply linked
  cases read : story.link link object with
  | ok value => exact absurd (hasEntry_of_link read) missing
  | error error => rw [links, read]; rfl

/-- What a link says fits in a link. -/
theorem links_le (story : Story) (link : Link) (object : Nat) :
    story.links link object ≤ story.version.maxObject := by
  by_cases entry : story.HasEntry object
  · rw [byteAt_linkAddress_toNat entry, Version.maxObject]
    split
    · exact Nat.le_of_lt_succ (UInt8.toNat_lt _)
    · exact Nat.le_of_lt_succ (UInt16.toNat_lt _)
  · by_contra beyond
    have linked : story.links link object ≠ 0 := by omega
    exact entry (hasEntry_of_links linked)

theorem previousSibling_leads {story : Story} {object parent steps candidate previous : Nat}
    (found : story.previousSibling object parent steps candidate = .ok previous) :
    story.sibling previous = .ok object := by
  induction steps generalizing candidate with
  | zero => cases found
  | succ steps ih =>
    rw [previousSibling] at found
    split at found
    · cases found
    · obtain ⟨next, read, rest⟩ := exists_of_bind_eq_ok found
      split at rest
      next same =>
        cases rest
        rw [read, same]
      next => exact ih rest

/-- The link that leads to an object says the object, which has a parent. -/
theorem leading_spec {story : Story} {object place : Nat} {link : Link}
    (leads : story.leading object = .ok (link, place)) :
    story.HasEntry place ∧ story.links link place = object ∧
      story.links .parent object ≠ 0 := by
  obtain ⟨above, held, rest⟩ := exists_of_bind_eq_ok leads
  obtain ⟨first, read, rest⟩ := exists_of_bind_eq_ok rest
  have nonzero : story.links .parent object ≠ 0 := by
    rw [links_of_link held]
    exact Nat.ne_of_gt (hasEntry_of_link read).1
  split at rest
  next same =>
    cases rest
    exact ⟨hasEntry_of_link read, (links_of_link read).trans same, nonzero⟩
  next =>
    obtain ⟨previous, found, rest⟩ := exists_of_bind_eq_ok rest
    cases rest
    have said := previousSibling_leads found
    exact ⟨hasEntry_of_link said, links_of_link said, nonzero⟩

theorem LinkWritable.of_offset_le {story : Story} {link earlier : Link} {object : Nat}
    (writable : story.LinkWritable link object)
    (before : earlier.offset story.version ≤ link.offset story.version) :
    story.LinkWritable earlier object := by
  simp only [LinkWritable, linkAddress] at writable ⊢
  omega

/-- Where all of memory is dynamic, so is the table. -/
theorem tableOnOneSide_of_dynamic {story : Story}
    (dynamic : story.memory.size ≤ story.memory.staticMark) : story.TableOnOneSide := by
  left
  intro object entry
  have within := (linkAddress_bounds story .child object).2
  exact Nat.le_trans within (Nat.le_trans entry.2.2 dynamic)

/-- A table on one side of the static mark is never left half written. -/
theorem TableOnOneSide.not_torn {story : Story} (oneSide : story.TableOnOneSide)
    (object destination : Nat) :
    ¬ story.TornRemoval object ∧ ¬ story.TornInsertion object destination := by
  have order := Link.offset_le story.version
  have removal : ¬ story.TornRemoval object := by
    rintro ⟨⟨link, place, leads, writable⟩, fixed, -⟩
    obtain ⟨entry, -, held⟩ := leading_spec leads
    rcases oneSide with dynamic | static
    · exact fixed ((dynamic object (hasEntry_of_links held)).of_offset_le (order .sibling).2)
    · exact static place entry (writable.of_offset_le (order link).1)
  refine ⟨removal, ?_⟩
  rintro ⟨entry, entry', -, torn | ⟨fixed, writable, -⟩⟩
  · exact removal torn
  · rcases oneSide with dynamic | static
    · exact fixed (dynamic destination entry')
    · exact static object entry (writable.of_offset_le (order .sibling).1)

abbrev SameTable (before after : Story) : Prop :=
  ChangedOnly (headerSize ≤ ·) before after

namespace SameTable

variable {before after : Story} (same : SameTable before after)
include same

theorem hasEntry_iff (object : Nat) : after.HasEntry object ↔ before.HasEntry object :=
  ChangedOnly.hasEntry_iff same (fun _ => Nat.not_le_of_lt) object

theorem linkWritable_iff (link : Link) (object : Nat) :
    after.LinkWritable link object ↔ before.LinkWritable link object :=
  ChangedOnly.linkWritable_iff same (fun _ => Nat.not_le_of_lt) link object

/-- Where a link says something else, the bytes are not the same. -/
theorem bytes_ne_of_links {link : Link} {object : Nat} (entry : before.HasEntry object)
    (differ : after.links link object ≠ before.links link object) :
    after.memory.bytes ≠ before.memory.bytes := by
  intro equal
  apply differ
  rw [byteAt_linkAddress_toNat ((same.hasEntry_iff object).mpr entry),
    byteAt_linkAddress_toNat entry, ChangedOnly.linkAddress same fun _ => Nat.not_le_of_lt,
    same.version]
  simp only [Memory.byteAt, Memory.wordAt, equal]

end SameTable

end Story

namespace Update
open Story

variable {story : Story} {object : Nat}

theorem sameTable_linkWritten (story : Story) (link : Link) (object value : Nat) :
    SameTable story (linkWritten story link object value) := by
  have above := (linkAddress_bounds story link object).1
  exact (changedOnly_linkWritten story link object value).mono
    fun address ⟨low, _⟩ => Nat.le_trans above low

/-- Writing what a link says already changes nothing. -/
theorem linkWritten_self (entry : story.HasEntry object) (link : Link) :
    linkWritten story link object (story.links link object) = story := by
  rw [byteAt_linkAddress_toNat entry]
  simp only [linkWritten]
  split
  · rw [UInt8.ofNat_toNat, Memory.put_self]
  · rw [UInt16.ofNat_toNat, Memory.putWord_self]

/-- Writing a link changes memory exactly where the link said something else. -/
theorem bytes_linkWritten_ne_iff (entry : story.HasEntry object) (link : Link) {value : Nat}
    (bounded : value ≤ story.version.maxObject) :
    (linkWritten story link object value).memory.bytes ≠ story.memory.bytes ↔
      value ≠ story.links link object := by
  constructor
  · rintro changed rfl
    exact changed (congrArg (·.memory.bytes) (linkWritten_self entry link))
  · intro differ
    apply (sameTable_linkWritten story link object value).bytes_ne_of_links entry
    rwa [links_linkWritten entry entry link bounded, Links.set_same]

/-- The writes of a removal. -/
theorem removeObject_eq (entry : story.HasEntry object) (held : story.links .parent object ≠ 0) :
    removeObject object story = (do
      let (link, place) ← query (·.leading object)
      setLink link place (story.links .sibling object)
      setParent object 0
      setSibling object 0 : Update Unit) story := by
  have readParent : story.parent object = .ok _ := entry.link_ok .parent
  have readNext : story.sibling object = .ok _ := entry.link_ok .sibling
  rw [removeObject, bind_of_ok (query_of_ok readParent)]
  simp only [ne_eq, held, not_false_eq_true, ite_true]
  rw [bind_of_ok (query_of_ok readNext)]
  cases readFirst : story.child (story.links .parent object) with
  | error error =>
    have failed : story.leading object = .error error := by
      simp only [leading, readParent, readFirst, bind, Except.bind]
    rw [bind_of_error (query_of_error readFirst), bind_of_error (query_of_error failed)]
  | ok first =>
    rw [bind_of_ok (query_of_ok readFirst)]
    by_cases same : first = object
    · have found : story.leading object = .ok (.child, story.links .parent object) := by
        simp only [leading, readParent, readFirst, same, if_true, bind, Except.bind, pure,
          Except.pure]
      rw [bind_of_ok (query_of_ok found), if_pos same]
      rfl
    · rw [if_neg same, get_bind]
      cases walked : story.previousSibling object (story.links .parent object) story.walkLimit
          first with
      | error error =>
        have failed : story.leading object = .error error := by
          simp only [leading, readParent, readFirst, same, walked, if_false, bind, Except.bind]
        rw [bind_of_error (query_of_error walked), bind_of_error (query_of_error failed)]
      | ok previous =>
        have found : story.leading object = .ok (.sibling, previous) := by
          simp only [leading, readParent, readFirst, same, walked, if_false, bind, Except.bind,
            pure, Except.pure]
        rw [bind_of_ok (query_of_ok walked), bind_of_ok (query_of_ok found)]
        rfl

inductive Removes (story : Story) (object : Nat) : EStateM.Result Error Story Unit → Prop where
  | orphan (entry : story.HasEntry object) (alone : story.links .parent object = 0) :
      Removes story object (.ok () story)
  | refused (error : Error) (fixed : ¬ story.Detachable object)
      (held : story.HasEntry object → story.links .parent object ≠ 0) :
      Removes story object (.error error story)
  | removed {after : Story} (detachable : story.Detachable object)
      (writable : story.LinkWritable .sibling object) (same : SameTable story after)
      (cleared : after.links .parent object = 0) : Removes story object (.ok () after)
  | torn {after : Story} (error : Error) (detachable : story.Detachable object)
      (fixed : ¬ story.LinkWritable .sibling object)
      (changed : after.memory.bytes ≠ story.memory.bytes ↔
        story.LinkWritable .parent object ∨ story.links .sibling object ≠ object) :
      Removes story object (.error error after)

/-- Once the link that leads to the object has been written, the object's own links decide. -/
theorem removes_of_detached {middle : Story} (detachable : story.Detachable object)
    (held : story.links .parent object ≠ 0) (same : SameTable story middle)
    (changed : middle.memory.bytes ≠ story.memory.bytes ↔ story.links .sibling object ≠ object) :
    Removes story object ((do setParent object 0; setSibling object 0 : Update Unit) middle) := by
  have entry := hasEntry_of_links held
  have entry' := (same.hasEntry_iff object).mpr entry
  have small := Nat.zero_le middle.version.maxObject
  by_cases writable : story.LinkWritable .parent object
  · have written := setLink_of_writable entry' ((same.linkWritable_iff _ _).mpr writable) 0
    have same' : SameTable story (linkWritten middle .parent object 0) :=
      same.trans (sameTable_linkWritten middle .parent object 0)
    have cleared : (linkWritten middle .parent object 0).links .parent object = 0 := by
      rw [links_linkWritten entry' entry' _ small, Links.set_same]
    have entry'' := (same'.hasEntry_iff object).mpr entry
    rw [setParent, bind_of_ok written, setSibling]
    by_cases writable' : story.LinkWritable .sibling object
    · rw [setLink_of_writable entry'' ((same'.linkWritable_iff _ _).mpr writable') 0]
      refine .removed detachable writable' (same'.trans (sameTable_linkWritten _ _ _ _)) ?_
      rw [links_linkWritten entry'' entry'' _ (Nat.zero_le _), Links.set_link _ (by decide),
        cleared]
    · obtain ⟨error, failed⟩ := setLink_of_not_writable entry''
        (mt (same'.linkWritable_iff _ _).mp writable') 0
      rw [failed]
      refine .torn error detachable writable' ⟨fun _ => .inl writable, fun _ => ?_⟩
      apply same'.bytes_ne_of_links entry
      rw [cleared]
      exact held.symm
  · obtain ⟨error, failed⟩ := setLink_of_not_writable entry'
      (mt (same.linkWritable_iff _ _).mp writable) 0
    rw [setParent, bind_of_error failed]
    have fixed : ¬ story.LinkWritable .sibling object := fun writable' =>
      writable (writable'.of_offset_le (Link.offset_le story.version .sibling).1)
    refine .torn error detachable fixed ?_
    rw [changed]
    exact ⟨.inr, fun either => either.resolve_left writable⟩

theorem removes_of_leading {link : Link} {place : Nat}
    (leads : story.leading object = .ok (link, place)) :
    Removes story object ((do
      setLink link place (story.links .sibling object)
      setParent object 0
      setSibling object 0 : Update Unit) story) := by
  obtain ⟨entry, said, held⟩ := leading_spec leads
  by_cases writable : story.LinkWritable link place
  · rw [bind_of_ok (setLink_of_writable entry writable _)]
    apply removes_of_detached ⟨link, place, leads, writable⟩ held (sameTable_linkWritten _ _ _ _)
    rw [bytes_linkWritten_ne_iff entry link (story.links_le .sibling object), said]
  · obtain ⟨error, failed⟩ := setLink_of_not_writable entry writable (story.links .sibling object)
    rw [bind_of_error failed]
    refine .refused error ?_ fun _ => held
    rintro ⟨link', place', leads', writable'⟩
    rw [leads] at leads'
    cases leads'
    exact writable writable'

theorem removes (story : Story) (object : Nat) :
    Removes story object (removeObject object story) := by
  by_cases entry : story.HasEntry object
  · by_cases alone : story.links .parent object = 0
    · have read : story.parent object = .ok _ := entry.link_ok .parent
      rw [removeObject, bind_of_ok (query_of_ok read)]
      simp only [alone, ne_eq, not_true_eq_false, ite_false]
      exact .orphan entry alone
    · rw [removeObject_eq entry alone]
      cases leads : story.leading object with
      | ok leading =>
        rw [bind_of_ok (query_of_ok leads)]
        exact removes_of_leading leads
      | error error =>
        rw [bind_of_error (query_of_error leads)]
        refine .refused error ?_ fun _ => alone
        rintro ⟨link, place, leads', -⟩
        rw [leads] at leads'
        cases leads'
  · cases read : story.parent object with
    | ok parent => exact absurd (hasEntry_of_link read) entry
    | error error =>
      rw [removeObject, bind_of_error (query_of_error read)]
      refine .refused error ?_ fun entry' => absurd entry' entry
      rintro ⟨link, place, leads, -⟩
      exact entry (hasEntry_of_links (leading_spec leads).2.2)

/-- A removal fails halfway exactly where it is torn. -/
theorem removeObject_failsHalfway_iff (story : Story) (object : Nat) :
    story.FailsHalfway (removeObject object story) ↔ story.TornRemoval object := by
  have outcome := removes story object
  generalize removeObject object story = result at outcome ⊢
  cases outcome with
  | orphan entry alone =>
    apply iff_of_false (not_failsHalfway_ok _ _)
    rintro ⟨⟨link, place, leads, -⟩, -⟩
    exact (leading_spec leads).2.2 alone
  | refused error fixed held =>
    apply iff_of_false (not_failsHalfway_error _ _)
    rintro ⟨detachable, -⟩
    exact fixed detachable
  | removed detachable writable same cleared =>
    apply iff_of_false (not_failsHalfway_ok _ _)
    rintro ⟨-, fixed, -⟩
    exact fixed writable
  | torn error detachable fixed changed =>
    rw [failsHalfway_error_iff, changed]
    constructor
    · intro either
      exact ⟨detachable, fixed, either⟩
    · rintro ⟨-, -, either⟩
      exact either

/-- The writes of an insertion once the object is out of its place. If its sibling can be written,
so can its parent, and only the destination can be in the way. -/
theorem placement_failsHalfway_iff {out : Story} {destination : Nat} (same : SameTable story out)
    (entry : story.HasEntry object) (entry' : story.HasEntry destination) :
    story.FailsHalfway ((do
        let first ← query (·.child destination)
        setSibling object first
        setChild destination object
        setParent object destination : Update Unit) out) ↔
      (¬ story.LinkWritable .sibling object ∧ out.memory.bytes ≠ story.memory.bytes) ∨
      (story.LinkWritable .sibling object ∧ ¬ story.LinkWritable .child destination ∧
        (linkWritten out .sibling object (out.links .child destination)).memory.bytes ≠
          story.memory.bytes) := by
  have read : out.child destination = .ok _ :=
    ((same.hasEntry_iff destination).mpr entry').link_ok .child
  have outEntry := (same.hasEntry_iff object).mpr entry
  rw [bind_of_ok (query_of_ok read), setSibling]
  by_cases writable : story.LinkWritable .sibling object
  · have written := setLink_of_writable outEntry ((same.linkWritable_iff _ _).mpr writable)
      (out.links .child destination)
    have placed : SameTable story
        (linkWritten out .sibling object (out.links .child destination)) :=
      same.trans (sameTable_linkWritten _ _ _ _)
    have placedEntry := (placed.hasEntry_iff destination).mpr entry'
    rw [bind_of_ok written, setChild]
    by_cases writable' : story.LinkWritable .child destination
    · have taken := setLink_of_writable placedEntry ((placed.linkWritable_iff _ _).mpr writable')
        object
      have full : SameTable story (linkWritten (linkWritten out .sibling object
          (out.links .child destination)) .child destination object) :=
        placed.trans (sameTable_linkWritten _ _ _ _)
      have finished := setLink_of_writable ((full.hasEntry_iff object).mpr entry)
        ((full.linkWritable_iff _ _).mpr
          (writable.of_offset_le (Link.offset_le story.version .sibling).1)) destination
      rw [bind_of_ok taken, setParent, finished]
      apply iff_of_false (not_failsHalfway_ok _ _)
      rintro (⟨fixed, -⟩ | ⟨-, fixed, -⟩)
      · exact fixed writable
      · exact fixed writable'
    · obtain ⟨error, failed⟩ := setLink_of_not_writable placedEntry
        (mt (placed.linkWritable_iff _ _).mp writable') object
      rw [bind_of_error failed, failsHalfway_error_iff]
      simp only [writable, writable', not_true_eq_false, not_false_eq_true, false_and, true_and,
        false_or]
  · obtain ⟨error, failed⟩ := setLink_of_not_writable outEntry
      (mt (same.linkWritable_iff _ _).mp writable) (out.links .child destination)
    rw [bind_of_error failed, failsHalfway_error_iff]
    simp only [writable, not_false_eq_true, false_and, true_and, or_false]

/-- An object that was taken out of its place has lost its parent, whatever its new sibling. -/
theorem bytes_ne_of_removed {out : Story} (detachable : story.Detachable object)
    (same : SameTable story out) (cleared : out.links .parent object = 0) (next : Nat)
    (bounded : next ≤ out.version.maxObject) :
    (linkWritten out .sibling object next).memory.bytes ≠ story.memory.bytes := by
  obtain ⟨link, place, leads, -⟩ := detachable
  have held := (leading_spec leads).2.2
  have entry := hasEntry_of_links held
  have outEntry := (same.hasEntry_iff object).mpr entry
  have placed : SameTable story (linkWritten out .sibling object next) :=
    same.trans (sameTable_linkWritten _ _ _ _)
  refine placed.bytes_ne_of_links entry (?_ : _ ≠ story.links .parent object)
  rw [links_linkWritten outEntry outEntry .sibling bounded, Links.set_link _ (by decide), cleared]
  exact held.symm

/-- What an insertion does after its checks. -/
theorem insertObject_eq_of_apart {destination : Nat} (entry : story.HasEntry object)
    (entry' : story.HasEntry destination)
    (apart : story.isAncestor object story.walkLimit destination = .ok false) :
    insertObject object destination story = (do
      removeObject object
      let first ← query (·.child destination)
      setSibling object first
      setChild destination object
      setParent object destination : Update Unit) story := by
  rw [insertObject, bind_of_ok (query_of_ok entry.objectAddress),
    bind_of_ok (query_of_ok entry'.objectAddress), get_bind, bind_of_ok (query_of_ok apart)]
  rfl

/-- An insertion that its checks refuse leaves the story as it was. -/
theorem insertObject_refused {destination : Nat}
    (unfit : ¬ (story.HasEntry object ∧ story.HasEntry destination ∧
      story.isAncestor object story.walkLimit destination = .ok false)) :
    ∃ error, insertObject object destination story = .error error story := by
  rw [insertObject]
  cases found : story.objectAddress object with
  | error error => exact ⟨error, bind_of_error (query_of_error found)⟩
  | ok address =>
    rw [bind_of_ok (query_of_ok found)]
    cases found' : story.objectAddress destination with
    | error error => exact ⟨error, bind_of_error (query_of_error found')⟩
    | ok address' =>
      rw [bind_of_ok (query_of_ok found'), get_bind]
      cases walked : story.isAncestor object story.walkLimit destination with
      | error error => exact ⟨error, bind_of_error (query_of_error walked)⟩
      | ok cycle =>
        rw [bind_of_ok (query_of_ok walked)]
        cases cycle with
        | true => exact ⟨_, rfl⟩
        | false =>
          have entry := (objectAddress_eq_ok_iff.mp found).1
          have entry' := (objectAddress_eq_ok_iff.mp found').1
          exact absurd ⟨entry, entry', walked⟩ unfit

/-- An insertion fails halfway exactly where it is torn. -/
theorem insertObject_failsHalfway_iff (story : Story) (object destination : Nat) :
    story.FailsHalfway (insertObject object destination story) ↔
      story.TornInsertion object destination := by
  by_cases fit : story.HasEntry object ∧ story.HasEntry destination ∧
      story.isAncestor object story.walkLimit destination = .ok false
  · obtain ⟨entry, entry', apart⟩ := fit
    rw [insertObject_eq_of_apart entry entry' apart]
    simp only [TornInsertion, entry, entry', apart, true_and]
    have outcome := removes story object
    cases ran : removeObject object story with
    | ok done out =>
      rw [ran] at outcome
      rw [bind_of_ok ran]
      cases outcome with
      | orphan _ alone =>
        have fixed : ¬ story.Detachable object := by
          rintro ⟨link, place, leads, -⟩
          exact (leading_spec leads).2.2 alone
        rw [placement_failsHalfway_iff (.refl _ story) entry entry',
          bytes_linkWritten_ne_iff entry .sibling (story.links_le .child destination),
          @ne_comm _ (story.links .child destination)]
        simp only [TornRemoval, fixed, alone, ne_eq, not_true_eq_false, and_false, false_and,
          true_and, false_or]
        exact and_left_comm
      | removed detachable writable same cleared =>
        have changed := bytes_ne_of_removed detachable same cleared _
          (out.links_le .child destination)
        rw [placement_failsHalfway_iff same entry entry']
        simp only [TornRemoval, detachable, writable, changed, ne_eq, not_true_eq_false,
          not_false_eq_true, and_true, and_false, false_and, true_and, true_or, false_or]
    | error error after =>
      rw [ran] at outcome
      rw [bind_of_error ran]
      cases outcome with
      | refused _ fixed held =>
        apply iff_of_false (not_failsHalfway_error _ _)
        rintro (⟨detachable, -⟩ | ⟨-, -, detachable | ⟨alone, -⟩⟩)
        · exact fixed detachable
        · exact fixed detachable
        · exact held entry alone
      | torn _ detachable fixed changed =>
        rw [failsHalfway_error_iff, changed]
        simp only [TornRemoval, detachable, fixed, not_false_eq_true, false_and, and_false,
          true_and, or_false]
  · obtain ⟨error, refused⟩ := insertObject_refused fit
    rw [refused]
    apply iff_of_false (not_failsHalfway_error _ _)
    rintro ⟨entry, entry', apart, -⟩
    exact fit ⟨entry, entry', apart⟩

/-- A move that fails has changed memory exactly where it is torn: the links it wrote before the
failure stay written. This never happens as long as the object table lies on one side of the static
mark. -/
theorem failed_move_torn_iff (story : Story) (object destination : Nat) :
    ((∃ error after, removeObject object story = .error error after ∧
        after.memory.bytes ≠ story.memory.bytes) ↔ story.TornRemoval object) ∧
    ((∃ error after, insertObject object destination story = .error error after ∧
        after.memory.bytes ≠ story.memory.bytes) ↔ story.TornInsertion object destination) ∧
    (story.TableOnOneSide →
      ¬ story.TornRemoval object ∧ ¬ story.TornInsertion object destination) := by
  refine ⟨removeObject_failsHalfway_iff story object,
    insertObject_failsHalfway_iff story object destination, ?_⟩
  intro oneSide
  exact oneSide.not_torn object destination

/-- A story of version 3 with two objects, of which the second is the child of the first. Their
entries take the bytes from 0x7e up to the end of memory at 0x90. -/
def pairImage (mark : UInt8) : Array UInt8 :=
  imageOfBytes 0x90 [(0x00, 3), (0x0b, 0x40), (0x0f, mark), (132, 2), (139, 1)]

/-- What taking the child out of its parent, and putting it back, comes to where static memory
starts within its entry. -/
theorem pairImage_runs :
    ∃ story, Story.load (pairImage 0x88) = .ok story ∧ story.memory.byteAt 132 = 2 ∧
      (∃ after, removeObject 2 story = .error (.byteWriteOutside 139 0x88) after ∧
        after.memory.byteAt 132 = 0) ∧
      ∃ after, insertObject 2 1 story = .error (.byteWriteOutside 139 0x88) after ∧
        after.memory.byteAt 132 = 0 := by
  have ran : (Story.load (pairImage 0x88)).toOption.map (fun story =>
      (story.memory.byteAt 132, failure? (removeObject 2 story),
        (finalState (removeObject 2 story)).memory.byteAt 132, failure? (insertObject 2 1 story),
        (finalState (insertObject 2 1 story)).memory.byteAt 132)) =
      some (2, some (.byteWriteOutside 139 0x88), 0, some (.byteWriteOutside 139 0x88), 0) := by
    decide +kernel
  cases loaded : Story.load (pairImage 0x88) with
  | error error =>
    rw [loaded] at ran
    cases ran
  | ok story =>
    rw [loaded] at ran
    obtain ⟨linked, removal, removed, insertion, inserted⟩ := by
      simpa only [Except.toOption, Option.map_some, Option.some.injEq, Prod.mk.injEq] using ran
    obtain ⟨after, failed⟩ := exists_of_failure? removal
    obtain ⟨after', failed'⟩ := exists_of_failure? insertion
    rw [failed] at removed
    rw [failed'] at inserted
    exact ⟨story, rfl, linked, ⟨after, failed, removed⟩, after', failed', inserted⟩

theorem failed_move_torn_iff_pairImage :
    (∃ story, Story.load (pairImage 0x88) = .ok story ∧ story.TornRemoval 2 ∧
      story.TornInsertion 2 1 ∧ ¬ story.TableOnOneSide) ∧
    ∃ story, Story.load (pairImage 0x90) = .ok story ∧ story.TableOnOneSide ∧
      ¬ story.TornRemoval 2 ∧ ¬ story.TornInsertion 2 1 := by
  constructor
  · obtain ⟨story, loaded, linked, ⟨out, removal, removed⟩, after, insertion, inserted⟩ :=
      pairImage_runs
    have changed {final : Story} (cleared : final.memory.byteAt 132 = 0) :
        final.memory.bytes ≠ story.memory.bytes := by
      intro same
      rw [Memory.byteAt, same, ← Memory.byteAt, linked] at cleared
      cases cleared
    obtain ⟨torn, torn', oneSide⟩ := failed_move_torn_iff story 2 1
    have tornRemoval := torn.mp ⟨_, out, removal, changed removed⟩
    refine ⟨story, loaded, tornRemoval, torn'.mp ⟨_, after, insertion, changed inserted⟩, ?_⟩
    intro dynamic
    exact (oneSide dynamic).1 tornRemoval
  · have marked : (Story.load (pairImage 0x90)).toOption.map (fun story =>
        decide (story.memory.size ≤ story.memory.staticMark)) = some true := by
      decide +kernel
    cases loaded : Story.load (pairImage 0x90) with
    | error error =>
      rw [loaded] at marked
      cases marked
    | ok story =>
      rw [loaded] at marked
      have dynamic := of_decide_eq_true (Option.some.inj marked)
      have oneSide := tableOnOneSide_of_dynamic dynamic
      obtain ⟨-, -, whole⟩ := failed_move_torn_iff story 2 1
      exact ⟨story, rfl, oneSide, whole oneSide⟩

/-- The child is taken from its parent, but keeps the parent itself. -/
theorem removal_fails_halfway_pairImage :
    ∃ story, Story.load (pairImage 0x88) = .ok story ∧ ∃ error after,
      removeObject 2 story = .error error after ∧
        after.memory.byteAt 132 ≠ story.memory.byteAt 132 := by
  obtain ⟨story, loaded, linked, ⟨after, removal, removed⟩, -⟩ := pairImage_runs
  refine ⟨story, loaded, _, after, removal, ?_⟩
  rw [removed, linked]
  decide

end Update

end StoryMachine
