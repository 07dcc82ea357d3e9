import StoryMachine.Proofs.DictionaryLookup

/-! Words as dictionaries hold them. A word is cut where its z-characters go beyond a fixed number,
so that it keeps the characters that fit as a whole. Of the one that is cut nothing is left in the
text; the decoder notices only where it has begun to read an escape. -/

namespace StoryMachine

namespace Encoding

variable (alphabet : Alphabet) (scheme : ShiftScheme)

/-- A character has a letter, a shift and a letter, or the escape of the third row with the two
halves of its code. -/
theorem zchars_cases (code : Zscii) :
    (∃ letter, zchars alphabet scheme code = [letter]) ∨
      (∃ letter, zchars alphabet scheme code = [(shifts scheme).1, letter]) ∨
      (∃ letter, zchars alphabet scheme code = [(shifts scheme).2, letter]) ∨
      ∃ high low, zchars alphabet scheme code = [(shifts scheme).2, 6, high, low] := by
  simp only [zchars]
  split
  · exact .inl ⟨0, rfl⟩
  split
  · exact .inl ⟨1, rfl⟩
  split
  · exact .inl ⟨_, rfl⟩
  · exact .inr (.inl ⟨_, rfl⟩)
  · exact .inr (.inr (.inl ⟨_, rfl⟩))
  · exact .inr (.inr (.inr ⟨_, _, rfl⟩))

def Fits (limit : Nat) (text : List Zscii) : Prop :=
  (text.flatMap (zchars alphabet scheme)).length ≤ limit

instance (limit : Nat) (text : List Zscii) : Decidable (Fits alphabet scheme limit text) :=
  inferInstanceAs (Decidable (_ ≤ _))

structure LongestFit (limit : Nat) (word kept : List Zscii) : Prop where
  start : kept <+: word
  fits : Fits alphabet scheme limit kept
  longest : ∀ longer, longer <+: word → Fits alphabet scheme limit longer → longer <+: kept

/-- The limit falls into the escape of the first character that is not kept, after the z-character
that announces the two halves of its code. -/
def CutsEscape (limit : Nat) (word kept : List Zscii) : Prop :=
  let used := (kept.flatMap (zchars alphabet scheme)).length
  ∃ code later, word = kept ++ code :: later ∧ (zchars alphabet scheme code).length = 4 ∧
    used + 2 ≤ limit ∧ limit < used + 4

/-- Every word falls into the characters that fit and the others, of which the first does not. -/
theorem exists_cut (limit : Nat) (word : List Zscii) :
    ∃ kept rest, word = kept ++ rest ∧ Fits alphabet scheme limit kept ∧
      ∀ code later, rest = code :: later → ¬ Fits alphabet scheme limit (kept ++ [code]) := by
  induction word generalizing limit with
  | nil => exact ⟨[], [], rfl, Nat.zero_le _, by simp⟩
  | cons first others ih =>
    rcases Nat.lt_or_ge limit (zchars alphabet scheme first).length with beyond | within
    · refine ⟨[], first :: others, rfl, Nat.zero_le _, ?_⟩
      rintro code later ⟨⟩ fits
      simp only [Fits, List.nil_append, List.flatMap_singleton] at fits
      omega
    · obtain ⟨kept, rest, split, fits, next⟩ :=
        ih (limit - (zchars alphabet scheme first).length)
      refine ⟨first :: kept, rest, by rw [split]; rfl, ?_, ?_⟩
      · simp only [Fits, List.flatMap_cons, List.length_append] at fits ⊢
        omega
      · intro code later same more
        apply next code later same
        simp only [Fits, List.cons_append, List.flatMap_cons, List.length_append] at more ⊢
        omega

variable {alphabet scheme}

/-- A start of a word that fits uses no more room than a longer one. -/
theorem Fits.of_prefix {limit : Nat} {shorter longer : List Zscii} (start : shorter <+: longer)
    (fits : Fits alphabet scheme limit longer) : Fits alphabet scheme limit shorter := by
  obtain ⟨more, rfl⟩ := start
  simp only [Fits, List.flatMap_append, List.length_append] at fits ⊢
  omega

/-- What comes before the first character that does not fit is the longest start that does. -/
theorem LongestFit.of_cut {limit : Nat} {kept rest : List Zscii}
    (fits : Fits alphabet scheme limit kept)
    (next : ∀ code later, rest = code :: later → ¬ Fits alphabet scheme limit (kept ++ [code])) :
    LongestFit alphabet scheme limit (kept ++ rest) kept := by
  refine ⟨List.prefix_append kept rest, fits, ?_⟩
  intro longer start fits'
  rcases List.prefix_or_prefix_of_prefix start (List.prefix_append kept rest) with
    within | ⟨more, rfl⟩
  · exact within
  cases more with
  | nil => exact ⟨[], by simp⟩
  | cons code others =>
    obtain ⟨later, same⟩ := (List.prefix_append_right_inj kept).mp start
    have one : kept ++ [code] <+: kept ++ code :: others := ⟨others, by simp⟩
    exact absurd (fits'.of_prefix one) (next code _ same.symm)

theorem LongestFit.unique {limit : Nat} {word first second : List Zscii}
    (here : LongestFit alphabet scheme limit word first)
    (there : LongestFit alphabet scheme limit word second) : first = second := by
  have shorter := there.longest first here.start here.fits
  have longer := here.longest second there.start there.fits
  exact shorter.eq_of_length_le longer.length_le

end Encoding

namespace ZString

/-- Cutting within the part that goes beyond the limit leaves what comes before it whole. -/
theorem fit_of_cut {limit : Nat} {front next later : List ZChar} (fits : front.length ≤ limit)
    (beyond : limit < front.length + next.length) :
    fit limit (front ++ (next ++ later)) = front ++ next.take (limit - front.length) := by
  have full : limit - (front ++ (next ++ later)).length = 0 := by
    simp only [List.length_append]
    omega
  rw [fit, full, List.replicate_zero, List.append_nil, List.take_append,
    List.take_of_length_le fits, List.take_append_of_le_length (by omega)]

theorem pack_inj {first second : List ZChar} (whole : 3 ∣ first.length)
    (whole' : 3 ∣ second.length) : pack first = pack second ↔ first = second := by
  constructor
  · intro same
    rw [← unpack_pack first whole, same, unpack_pack second whole']
  · rintro rfl
    rfl

end ZString

namespace Decoding
open Encoding ZString

variable (alphabet : Alphabet) (scheme : ShiftScheme)
  (expand : ZChar → ZChar → Except Error Decoded)

/-- The first z-characters of a character without the last add nothing to the text. They leave the
decoder in an escape once they have announced it. -/
theorem take_cut (code : Zscii) (count : Nat) (short : count < (zchars alphabet scheme code).length)
    (reversed : List Zscii) :
    ∃ final, ((zchars alphabet scheme code).take count).foldlM (take alphabet scheme expand)
        { reversed } = .ok final ∧
      final.finish = ⟨reversed.reverse,
        if (zchars alphabet scheme code).length = 4 ∧ 2 ≤ count then [.escapeCutOff] else []⟩ := by
  rcases Nat.eq_zero_or_pos count with rfl | positive
  · exact ⟨{ reversed }, rfl, by simp [State.finish]⟩
  have second : [(shifts scheme).1].foldlM (take alphabet scheme expand) { reversed } =
      .ok { shifted := some 1, reversed } := by
    simp only [List.foldlM_cons, take_shiftSecond, bind, Except.bind]
    rfl
  have third : [(shifts scheme).2].foldlM (take alphabet scheme expand) { reversed } =
      .ok { shifted := some 2, reversed } := by
    simp only [List.foldlM_cons, take_shiftThird, bind, Except.bind]
    rfl
  have announced : [(shifts scheme).2, 6].foldlM (take alphabet scheme expand) { reversed } =
      .ok { expecting := .escape, reversed } := by
    simp only [List.foldlM_cons, take_shiftThird, take_escape, bind, Except.bind]
    rfl
  have half (high : ZChar) : [(shifts scheme).2, 6, high].foldlM (take alphabet scheme expand)
      { reversed } = .ok { expecting := .escapeLow high, reversed } := by
    simp only [List.foldlM_cons, take_shiftThird, take_escape, bind, Except.bind]
    rfl
  rcases zchars_cases alphabet scheme code with
    ⟨letter, same⟩ | ⟨letter, same⟩ | ⟨letter, same⟩ | ⟨high, low, same⟩
  all_goals
    rw [same] at short ⊢
    simp only [List.length_cons, List.length_nil] at short
  · omega
  · obtain rfl : count = 1 := by omega
    exact ⟨_, second, by simp [State.finish]⟩
  · obtain rfl : count = 1 := by omega
    exact ⟨_, third, by simp [State.finish]⟩
  · obtain rfl | rfl | rfl : count = 1 ∨ count = 2 ∨ count = 3 := by omega
    · exact ⟨_, third, by simp [State.finish]⟩
    · exact ⟨_, announced, by simp [State.finish]⟩
    · exact ⟨_, half high, by simp [State.finish]⟩

/-- A word that is cut is decoded to what is kept of it. -/
theorem decode_of_cut {limit : Nat} (whole : 3 ∣ limit)
    (narrow : ∀ code place, alphabet.find? code = some place → code.toNat < 1024)
    {kept : List Zscii} {code : Zscii} (fits : Fits alphabet scheme limit kept)
    (beyond : ¬ Fits alphabet scheme limit (kept ++ [code])) (later : List Zscii) :
    let used := (kept.flatMap (zchars alphabet scheme)).length
    decode alphabet scheme expand
        (pack (fit limit ((kept ++ code :: later).flatMap (zchars alphabet scheme)))) =
      .ok ⟨kept.map (· % 1024), if (zchars alphabet scheme code).length = 4 ∧ 2 ≤ limit - used
        then [.escapeCutOff] else []⟩ := by
  intro used
  simp only [Fits, List.flatMap_append, List.flatMap_singleton, List.length_append] at fits beyond
  have cut : fit limit ((kept ++ code :: later).flatMap (zchars alphabet scheme)) =
      kept.flatMap (zchars alphabet scheme) ++
        (zchars alphabet scheme code).take (limit - used) := by
    rw [List.flatMap_append, List.flatMap_cons]
    exact fit_of_cut fits (by omega)
  obtain ⟨final, cutOff, finish⟩ := take_cut alphabet scheme expand code (limit - used) (by omega)
    (kept.map (· % 1024)).reverse
  have run : (fit limit ((kept ++ code :: later).flatMap (zchars alphabet scheme))).foldlM
      (take alphabet scheme expand) {} = .ok final := by
    rw [cut, List.foldlM_append, take_text alphabet scheme expand kept narrow, List.append_nil]
    exact cutOff
  have multiple : 3 ∣
      (fit limit ((kept ++ code :: later).flatMap (zchars alphabet scheme))).length := by
    rw [ZString.fit_length]
    exact whole
  rw [decode_of_run alphabet scheme expand multiple run, finish, List.reverse_reverse]

end Decoding

namespace Story
open Decoding Encoding

variable {story : Story} {alphabet : Alphabet}

/-- The words of a dictionary word decode to what fits of it. -/
theorem decodeWords_of_cut (readable : Alphabet.ofStory story = .ok alphabet)
    {kept rest : List Zscii} {words : List UInt16}
    (encoded : story.encodeDictionaryWord (kept ++ rest) = .ok words)
    (fits : Fits alphabet story.version.shiftScheme story.version.dictionaryWordLength kept)
    (next : ∀ code later, rest = code :: later → ¬ Fits alphabet story.version.shiftScheme
      story.version.dictionaryWordLength (kept ++ [code])) :
    let cutsEscape := CutsEscape alphabet story.version.shiftScheme
      story.version.dictionaryWordLength (kept ++ rest) kept
    (cutsEscape → story.decodeWords words = .ok ⟨kept.map (· % 1024), [.escapeCutOff]⟩) ∧
      (¬ cutsEscape → story.decodeWords words = .ok ⟨kept.map (· % 1024), []⟩) := by
  have whole := story.version.three_dvd_dictionaryWordLength
  have narrow := narrow_of_readable readable
  intro cutsEscape
  rw [encodeDictionaryWord_eq readable] at encoded
  cases encoded
  simp only [decodeWords, readable, bind, Except.bind]
  cases rest with
  | nil =>
    constructor
    · rintro ⟨code, later, same, -⟩
      exact absurd same (by simp)
    · intro _
      have run := take_text alphabet story.version.shiftScheme story.abbreviation kept narrow [] []
      rw [List.append_nil kept, decode_of_rest _ _ _ whole fits run, List.append_nil,
        List.reverse_reverse]
  | cons code later =>
    have beyond := next code later rfl
    rw [decode_of_cut alphabet _ _ whole narrow fits beyond]
    constructor
    · rintro ⟨code', later', same, escaped, announced, -⟩
      obtain ⟨rfl, rfl⟩ := List.cons.inj (List.append_cancel_left same)
      rw [if_pos ⟨escaped, by omega⟩]
    · intro otherwise
      rw [if_neg]
      rintro ⟨escaped, announced⟩
      apply otherwise
      simp only [Fits, List.flatMap_append, List.flatMap_singleton, List.length_append] at beyond
      exact ⟨code, later, rfl, escaped, by omega, by omega⟩

/-- Two words are encoded alike exactly when they have the same z-characters up to the limit. -/
theorem encodeDictionaryWord_eq_iff (readable : Alphabet.ofStory story = .ok alphabet)
    (first second : List Zscii) :
    story.encodeDictionaryWord first = story.encodeDictionaryWord second ↔
      ZString.fit story.version.dictionaryWordLength
          (first.flatMap (zchars alphabet story.version.shiftScheme)) =
        ZString.fit story.version.dictionaryWordLength
          (second.flatMap (zchars alphabet story.version.shiftScheme)) := by
  have whole (zchars : List ZChar) :
      3 ∣ (ZString.fit story.version.dictionaryWordLength zchars).length := by
    rw [ZString.fit_length]
    exact story.version.three_dvd_dictionaryWordLength
  rw [encodeDictionaryWord_eq readable, encodeDictionaryWord_eq readable, Except.ok.injEq]
  exact ZString.pack_inj (whole _) (whole _)

theorem terminated_of_encodeDictionaryWord (readable : Alphabet.ofStory story = .ok alphabet)
    {word : List Zscii} {words : List UInt16}
    (encoded : story.encodeDictionaryWord word = .ok words) : ZString.Terminated words := by
  rw [encodeDictionaryWord_eq readable] at encoded
  cases encoded
  apply ZString.pack_terminated
  apply ZString.pack_ne_nil
  rw [ZString.fit_length, Version.dictionaryWordLength]
  split <;> decide

/-- Encoding a word for a dictionary loses only what does not fit. It gives two words up to version
3 and three from version 4, of which the last alone is marked. They decode to the longest start of
the word whose z-characters all fit, codes with their low ten bits, and with one warning exactly
where the limit falls into an escape that has been announced. Two words are encoded alike exactly
when their z-characters, cut or filled up to the limit, are the same. -/
theorem dictionary_word_loses_only_excess (readable : Alphabet.ofStory story = .ok alphabet) :
    let scheme := story.version.shiftScheme
    let limit := story.version.dictionaryWordLength
    (∀ word, ∃ words kept, story.encodeDictionaryWord word = .ok words ∧
      words.length = (if story.version < .v4 then 2 else 3) ∧ ZString.Terminated words ∧
      LongestFit alphabet scheme limit word kept ∧
      (CutsEscape alphabet scheme limit word kept → ∃ warning, warning.code = .shiftOutOfRange ∧
        story.decodeWords words = .ok ⟨kept.map (· % 1024), [warning]⟩) ∧
      (¬ CutsEscape alphabet scheme limit word kept →
        story.decodeWords words = .ok ⟨kept.map (· % 1024), []⟩)) ∧
    ∀ first second, story.encodeDictionaryWord first = story.encodeDictionaryWord second ↔
      ZString.fit limit (first.flatMap (zchars alphabet scheme)) =
        ZString.fit limit (second.flatMap (zchars alphabet scheme)) := by
  intro scheme limit
  refine ⟨?_, encodeDictionaryWord_eq_iff readable⟩
  intro word
  obtain ⟨kept, rest, rfl, fits, next⟩ := exists_cut alphabet scheme limit word
  have encoded := encodeDictionaryWord_eq readable (kept ++ rest)
  obtain ⟨warned, unwarned⟩ := decodeWords_of_cut readable encoded fits next
  have count : story.version.dictionaryWords = if story.version < .v4 then 2 else 3 := by
    unfold Version.dictionaryWords Version.dictionaryWordLength
    split <;> rfl
  refine ⟨_, kept, encoded, (encodeDictionaryWord_length encoded).trans count,
    terminated_of_encodeDictionaryWord readable encoded, .of_cut fits next, ?_, unwarned⟩
  intro cut
  exact ⟨.escapeCutOff, rfl, warned cut⟩

/-- The fifth character has no place in the alphabet and starts at the fifth z-character, so that
its escape is cut before the halves of the code. Another such character is encoded alike. -/
theorem dictionary_word_loses_only_excess_threeWords :
    let story := threeWords (0, 3)
    story.encodeDictionaryWord [97, 98, 99, 100, 60, 101] =
        story.encodeDictionaryWord [97, 98, 99, 100, 62] ∧
      ∃ words, story.encodeDictionaryWord [97, 98, 99, 100, 60, 101] = .ok words ∧
        words.length = 2 ∧ ZString.Terminated words ∧ ∃ warning, warning.code = .shiftOutOfRange ∧
          story.decodeWords words = .ok ⟨[97, 98, 99, 100], [warning]⟩ := by
  intro story
  have readable : Alphabet.ofStory story = .ok .standard := by decide +kernel
  obtain ⟨decodes, alike⟩ := dictionary_word_loses_only_excess readable
  obtain ⟨words, kept, encoded, length, terminated, longest, warned, -⟩ :=
    decodes [97, 98, 99, 100, 60, 101]
  have fits : Fits .standard .shifting 6 [97, 98, 99, 100] := by decide +kernel
  have beyond : ¬ Fits .standard .shifting 6 ([97, 98, 99, 100] ++ [60]) := by decide +kernel
  have cut : LongestFit .standard .shifting 6 ([97, 98, 99, 100] ++ [60, 101])
      [97, 98, 99, 100] := by
    apply LongestFit.of_cut fits
    rintro code later ⟨⟩
    exact beyond
  obtain rfl := longest.unique cut
  refine ⟨(alike _ _).mpr (by decide +kernel), words, encoded, length, terminated, warned ?_⟩
  exact ⟨60, [101], rfl, by decide +kernel, by decide +kernel, by decide +kernel⟩

end Story

end StoryMachine
