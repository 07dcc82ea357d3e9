import Mathlib.Data.List.Sort
import StoryMachine.Dictionary.Words

/-! The words of a line. A line can be divided in one way only into words that take up all but the
spaces, where separators stand alone and other letters that stand together stay together. Splitting
finds it. -/

namespace StoryMachine.Word

/-- The letters of a word are those of a text from the word's start on, in lower case. -/
structure Spells (word : Word) (text : List Zscii) : Prop where
  nonempty : word.letters ≠ []
  letters : ((text.drop word.start).take word.letters.length).map Zscii.toLower = word.letters

def stop (word : Word) : Nat :=
  word.start + word.letters.length

def Covers (word : Word) (position : Nat) : Prop :=
  word.start ≤ position ∧ position < word.stop

def Precedes (word later : Word) : Prop :=
  word.start < later.start ∧ word.stop ≤ later.start

instance : Std.Irrefl Precedes where
  irrefl _ precedes := Nat.lt_irrefl _ precedes.1

instance : Std.Antisymm Precedes where
  antisymm _ _ precedes follows := absurd precedes.1 (Nat.lt_asymm follows.1)

def IsSeparator (separators : List Zscii) (word : Word) : Prop :=
  ∃ code ∈ separators, word.letters = [code]

/-- Words divide a text from a position on. -/
structure Divides (text separators : List Zscii) (start : Nat) (words : List Word) : Prop where
  ordered : words.Pairwise Precedes
  within : ∀ word ∈ words, start ≤ word.start
  spelled : ∀ word ∈ words, word.Spells text
  /-- Words take up exactly the positions that have no space. -/
  covers : ∀ position, start ≤ position →
    ((∃ word ∈ words, word.Covers position) ↔
      ∃ code, text[position]? = some code ∧ code.toLower ≠ Zscii.space)
  /-- No separator or space is part of a longer word. -/
  plain : ∀ word ∈ words, 1 < word.letters.length →
    ∀ code ∈ word.letters, code ∉ separators ∧ code ≠ Zscii.space
  /-- Of two words with nothing between them, one is a separator. -/
  touching : ∀ word ∈ words, ∀ next ∈ words, word.stop = next.start →
    word.IsSeparator separators ∨ next.IsSeparator separators

namespace Spells

variable {word other : Word} {text separators : List Zscii}

theorem inside (spells : word.Spells text) :
    word.start + word.letters.length ≤ text.length := by
  have positive := List.length_pos_iff.mpr spells.nonempty
  have length := congrArg List.length spells.letters
  simp only [List.length_map, List.length_take, List.length_drop] at length
  omega

theorem start_lt_stop (spells : word.Spells text) : word.start < word.stop :=
  Nat.lt_add_of_pos_right (List.length_pos_iff.mpr spells.nonempty)

theorem append (before letters after : List Zscii) (nonempty : letters ≠ []) :
    Spells ⟨before.length, letters.map Zscii.toLower⟩ (before ++ letters ++ after) where
  nonempty := by simpa using nonempty
  letters := by simp

/-- What stands in the text where a word covers it. -/
theorem letter (spells : word.Spells text) {position : Nat} (covers : word.Covers position) :
    ∃ code, text[position]? = some code ∧ code.toLower ∈ word.letters := by
  obtain ⟨index, rfl⟩ := Nat.exists_eq_add_of_le covers.1
  have counted : index < word.letters.length := Nat.lt_of_add_lt_add_left covers.2
  have present : word.start + index < text.length := Nat.lt_of_lt_of_le covers.2 spells.inside
  refine ⟨text[word.start + index], List.getElem?_eq_getElem present, ?_⟩
  have found := congrArg (·[index]?) spells.letters
  simp only [List.getElem?_map, List.getElem?_take_of_lt counted, List.getElem?_drop,
    List.getElem?_eq_getElem present, Option.map_some] at found
  exact List.mem_of_getElem? found.symm

/-- A text spells one word between two positions. -/
theorem unique (spells : word.Spells text) (spells' : other.Spells text)
    (starts : word.start = other.start) (stops : word.stop = other.stop) : word = other := by
  have length : word.letters.length = other.letters.length := by
    simp only [stop] at stops
    omega
  have letters : word.letters = other.letters := by
    rw [← spells.letters, ← spells'.letters, starts, length]
  cases word
  cases other
  cases starts
  cases letters
  rfl

end Spells

namespace Divides

variable {text separators : List Zscii} {start : Nat} {words : List Word}

theorem nil (text separators : List Zscii) : Divides text separators text.length [] where
  ordered := .nil
  within := List.forall_mem_nil _
  spelled := List.forall_mem_nil _
  covers position past := by
    simp [List.getElem?_eq_none past]
  plain := List.forall_mem_nil _
  touching := List.forall_mem_nil _

/-- A space in front belongs to no word. -/
theorem space (later : Divides text separators (start + 1) words) {code : Zscii}
    (here : text[start]? = some code) (blank : code.toLower = Zscii.space) :
    Divides text separators start words where
  ordered := later.ordered
  within word member := Nat.le_of_succ_le (later.within word member)
  spelled := later.spelled
  covers position bound := by
    rcases Nat.eq_or_lt_of_le bound with rfl | past
    · constructor
      · rintro ⟨word, member, covers⟩
        exact absurd covers.1 (Nat.not_le_of_lt (later.within word member))
      · rintro ⟨other, there, visible⟩
        cases here.symm.trans there
        exact absurd blank visible
    · exact later.covers position past
  plain := later.plain
  touching := later.touching

/-- A word goes in front of those that start where it stops or later. -/
theorem cons {word : Word} (later : Divides text separators word.stop words)
    (spells : word.Spells text) (visible : ∀ code ∈ word.letters, code ≠ Zscii.space)
    (plain : 1 < word.letters.length → ∀ code ∈ word.letters, code ∉ separators)
    (parted : ∀ next ∈ words, word.stop = next.start →
      word.IsSeparator separators ∨ next.IsSeparator separators) :
    Divides text separators word.start (word :: words) where
  ordered := by
    refine List.pairwise_cons.mpr ⟨fun next member => ?_, later.ordered⟩
    have after := later.within next member
    exact ⟨Nat.lt_of_lt_of_le spells.start_lt_stop after, after⟩
  within := by
    refine List.forall_mem_cons.mpr ⟨Nat.le_refl _, fun next member => ?_⟩
    exact Nat.le_of_lt (Nat.lt_of_lt_of_le spells.start_lt_stop (later.within next member))
  spelled := List.forall_mem_cons.mpr ⟨spells, later.spelled⟩
  covers position bound := by
    by_cases inside : position < word.stop
    · have covers : word.Covers position := ⟨bound, inside⟩
      obtain ⟨code, found, member⟩ := spells.letter covers
      exact iff_of_true ⟨word, List.mem_cons_self, covers⟩ ⟨code, found, visible _ member⟩
    · have elsewhere : ¬ word.Covers position := fun covers => inside covers.2
      rw [← later.covers position (Nat.le_of_not_lt inside), List.exists_mem_cons_iff]
      exact or_iff_right elsewhere
  plain := by
    refine List.forall_mem_cons.mpr ⟨fun long code member => ?_, later.plain⟩
    exact ⟨plain long code member, visible code member⟩
  touching := by
    have forward := spells.start_lt_stop
    refine List.forall_mem_cons.mpr ⟨?_, fun first member => ?_⟩
    · refine List.forall_mem_cons.mpr ⟨fun meets => ?_, parted⟩
      omega
    · refine List.forall_mem_cons.mpr ⟨fun meets => ?_, later.touching first member⟩
      have after := later.within first member
      have positive := (later.spelled first member).start_lt_stop
      omega

/-- The letters under way become a word in front of those that follow. -/
theorem close {before letters rest : List Zscii}
    (later : Divides (before ++ letters ++ rest) separators (before.length + letters.length) words)
    (plain : ∀ code ∈ letters, code.toLower ∉ separators ∧ code.toLower ≠ Zscii.space)
    (parted : ∀ next ∈ words, before.length + letters.length = next.start →
      next.IsSeparator separators) :
    Divides (before ++ letters ++ rest) separators before.length
      (Word.close (before.length + letters.length) (letters.map Zscii.toLower) ++ words) := by
  rw [Word.close]
  split
  next empty =>
    rw [List.map_eq_nil_iff.mp empty] at later ⊢
    exact later
  next nonempty =>
    have plain' : ∀ code ∈ letters.map Zscii.toLower, code ∉ separators ∧ code ≠ Zscii.space :=
      List.forall_mem_map.mpr plain
    have spells := Spells.append before letters rest (by simpa using nonempty)
    have stops : stop ⟨before.length, letters.map Zscii.toLower⟩ =
        before.length + letters.length := by
      rw [stop, List.length_map]
    rw [← stops] at later parted
    rw [List.length_map, Nat.add_sub_cancel, List.singleton_append]
    exact cons later spells (fun code member => (plain' code member).2)
      (fun _ code member => (plain' code member).1) fun next member meets =>
        .inr (parted next member meets)

end Divides

/-- What is split off from the rest of a line, with some letters under way, divides the line from
those letters on. -/
theorem divides_splitFrom (separators before letters rest : List Zscii)
    (plain : ∀ code ∈ letters, code.toLower ∉ separators ∧ code.toLower ≠ Zscii.space) :
    Divides (before ++ letters ++ rest) separators before.length
      (splitFrom separators (before.length + letters.length) (letters.map Zscii.toLower) rest) := by
  induction rest generalizing before letters with
  | nil =>
    have done := Divides.nil (before ++ letters ++ []) separators
    rw [List.append_nil, List.length_append, ← List.append_nil (before ++ letters)] at done
    simpa only [splitFrom, List.append_nil] using done.close plain (List.forall_mem_nil _)
  | cons code rest ih =>
    -- After a space or a separator no letters are under way.
    have fresh : Divides (before ++ letters ++ code :: rest) separators
        (before.length + letters.length + 1)
        (splitFrom separators (before.length + letters.length + 1) [] rest) := by
      have later := ih (before ++ letters ++ [code]) [] (List.forall_mem_nil _)
      simpa only [List.length_append, List.length_singleton, List.length_nil, Nat.add_zero,
        List.map_nil, List.append_nil, List.append_assoc, List.singleton_append,
        Nat.add_assoc] using later
    have here : (before ++ letters ++ code :: rest)[before.length + letters.length]? =
        some code := by
      rw [← List.length_append, List.getElem?_append_right (Nat.le_refl _), Nat.sub_self,
        List.getElem?_cons_zero]
    simp only [splitFrom]
    split
    next blank =>
      refine (fresh.space here blank).close plain fun next member meets => ?_
      have after := fresh.within next member
      omega
    next visible =>
      split
      next separator =>
        have single : IsSeparator separators ⟨before.length + letters.length, [code.toLower]⟩ :=
          ⟨_, separator, rfl⟩
        have spells : Spells ⟨before.length + letters.length, [code.toLower]⟩
            (before ++ letters ++ code :: rest) := by
          simpa only [List.length_append, List.map_cons, List.map_nil, List.append_assoc,
            List.singleton_append] using Spells.append (before ++ letters) [code] rest (by simp)
        have alone : Divides (before ++ letters ++ code :: rest) separators
            (before.length + letters.length) (⟨before.length + letters.length, [code.toLower]⟩ ::
              splitFrom separators (before.length + letters.length + 1) [] rest) :=
          .cons fresh spells (List.forall_mem_singleton.mpr visible)
            (fun long => absurd long (Nat.lt_irrefl 1)) fun _ _ _ => .inl single
        refine alone.close plain (List.forall_mem_cons.mpr ⟨fun _ => single, ?_⟩)
        intro next member meets
        have after := fresh.within next member
        omega
      next ordinary =>
        have plain' : ∀ other ∈ letters ++ [code],
            other.toLower ∉ separators ∧ other.toLower ≠ Zscii.space :=
          List.forall_mem_append.mpr ⟨plain, List.forall_mem_singleton.mpr ⟨ordinary, visible⟩⟩
        have longer := ih before (letters ++ [code]) plain'
        simpa only [List.length_append, List.length_singleton, List.map_append, List.map_cons,
          List.map_nil, List.append_assoc, List.singleton_append, Nat.add_assoc] using longer

theorem divides_split (text separators : List Zscii) :
    Divides text separators 0 (split text separators) :=
  divides_splitFrom separators [] [] text (List.forall_mem_nil _)

theorem spells_split (text separators : List Zscii) :
    ∀ word ∈ split text separators, word.Spells text :=
  (divides_split text separators).spelled

namespace Divides

variable {text separators : List Zscii} {start : Nat} {words others : List Word}
  {word other : Word}

theorem precedes_or_precedes (divides : Divides text separators start words)
    (member : word ∈ words) (member' : other ∈ words) (different : word ≠ other) :
    Precedes word other ∨ Precedes other word := by
  have apart : ∀ ⦃first⦄, first ∈ words → ∀ ⦃second⦄, second ∈ words →
      first ≠ second → Precedes first second ∨ Precedes second first :=
    List.Pairwise.forall_of_forall_of_flip (fun _ _ different => absurd rfl different)
      (divides.ordered.imp fun precedes _ => .inl precedes)
      (divides.ordered.imp fun precedes _ => .inr precedes)
  exact apart member member' different

/-- A separator is no part of a longer word. -/
theorem not_isSeparator (divides : Divides text separators start words) (member : word ∈ words)
    (long : 1 < word.letters.length) (spells : other.Spells text) {position : Nat}
    (covers : word.Covers position) (covers' : other.Covers position) :
    ¬ other.IsSeparator separators := by
  rintro ⟨code, separator, alone⟩
  obtain ⟨_, here, mine⟩ := (divides.spelled word member).letter covers
  obtain ⟨_, here', theirs⟩ := spells.letter covers'
  cases here.symm.trans here'
  rw [alone, List.mem_singleton] at theirs
  exact (divides.plain word member long _ mine).1 (theirs ▸ separator)

section Unique

variable (first : Divides text separators start words)
  (second : Divides text separators start others)
include first second

theorem exists_covers (member : word ∈ words) {position : Nat} (covers : word.Covers position) :
    ∃ other ∈ others, other.Covers position := by
  have bound := Nat.le_trans (first.within word member) covers.1
  exact (second.covers position bound).mpr ((first.covers position bound).mp ⟨word, member, covers⟩)

/-- However a text is divided, the word that covers the start of a word starts there too. -/
theorem start_eq (member : word ∈ words) (member' : other ∈ others)
    (covers : other.Covers word.start) : other.start = word.start := by
  refine Nat.le_antisymm covers.1 (Nat.le_of_not_lt fun earlier => ?_)
  -- The other word would have the letter before this one, which then ends a word that touches it.
  have inside := covers.2
  have previous : other.Covers (word.start - 1) := ⟨by omega, by omega⟩
  have long : 1 < other.letters.length := by
    rw [stop] at inside
    omega
  obtain ⟨left, leftMember, leftCovers⟩ := second.exists_covers first member' previous
  have reaches := leftCovers.1
  have meets : left.stop = word.start := by
    have different : left ≠ word := by
      rintro rfl
      omega
    rcases first.precedes_or_precedes leftMember member different with precedes | follows
    · have before := precedes.2
      have ends := leftCovers.2
      omega
    · have after := follows.1
      omega
  have starts := (first.spelled word member).start_lt_stop
  rcases first.touching left leftMember word member meets with single | single
  · exact second.not_isSeparator member' long (first.spelled left leftMember) previous leftCovers
      single
  · exact second.not_isSeparator member' long (first.spelled word member) covers
      ⟨Nat.le_refl _, starts⟩ single

/-- However a text is divided, no word goes on beyond one that starts at the same place. -/
theorem stop_le (member : word ∈ words) (member' : other ∈ others)
    (starts : other.start = word.start) : word.stop ≤ other.stop := by
  refine Nat.le_of_not_lt fun shorter => ?_
  -- This word would have the letter at the other's stop, which then starts a word that touches it.
  have forward := (second.spelled other member').start_lt_stop
  have next : word.Covers other.stop := ⟨by omega, shorter⟩
  have long : 1 < word.letters.length := by
    simp only [stop] at shorter forward
    omega
  obtain ⟨right, rightMember, rightCovers⟩ := first.exists_covers second member next
  have reaches := rightCovers.2
  have meets : other.stop = right.start := by
    have different : right ≠ other := by
      rintro rfl
      omega
    rcases second.precedes_or_precedes rightMember member' different with precedes | follows
    · have before := precedes.2
      omega
    · exact Nat.le_antisymm follows.2 rightCovers.1
  rcases second.touching other member' right rightMember meets with single | single
  · exact first.not_isSeparator member long (second.spelled other member') ⟨by omega, by omega⟩
      ⟨Nat.le_refl _, forward⟩ single
  · exact first.not_isSeparator member long (second.spelled right rightMember) next rightCovers
      single

theorem subset : words ⊆ others := by
  intro word member
  have spells := first.spelled word member
  obtain ⟨other, member', covers⟩ :=
    first.exists_covers second member ⟨Nat.le_refl _, spells.start_lt_stop⟩
  have starts := first.start_eq second member member' covers
  have stops := Nat.le_antisymm (first.stop_le second member member' starts)
    (second.stop_le first member' member starts.symm)
  rwa [spells.unique (second.spelled other member') starts.symm stops]

theorem unique : words = others :=
  List.Subset.antisymm_of_pairwise first.ordered second.ordered (first.subset second)
    (second.subset first)

end Unique

end Divides

/-- Splitting is exact. The words of a line stand in order and do not overlap; each is what the line
has between its start and its stop, in lower case; they take up all positions but those of spaces;
only a word of one letter can be a separator; and of two words with nothing between them one is a
separator. No other list of words is like this. -/
theorem eq_split_iff_divides (text separators : List Zscii) (words : List Word) :
    words = split text separators ↔ Divides text separators 0 words := by
  constructor
  · rintro rfl
    exact divides_split text separators
  · intro divides
    exact divides.unique (divides_split text separators)

-- A line is searched in lower case, so the separator `N` divides nothing, and a space stays a space.
example : split [0x4e, 0x2c, 0x20, 0x6e, 0x4e] [0x2c, 0x4e, 0x20] =
    [⟨0, [0x6e]⟩, ⟨1, [0x2c]⟩, ⟨3, [0x6e, 0x6e]⟩] := by
  decide

end StoryMachine.Word
