import Mathlib.Control.Monad.Basic
import StoryMachine.Proofs.StoredBytes
import StoryMachine.Text.Decoding
import StoryMachine.Text.Encoding

/-! Decoding undoes encoding. The encoder leaves the decoder at rest after every character: in the
first row, with no shift and nothing announced. The padding at the end may leave a shift or a lock,
which no character follows. -/

namespace StoryMachine

namespace Alphabet

/-- A character that is found has a place in one of the rows, and not that of the escape. -/
theorem find?_some {alphabet : Alphabet} {code : Zscii} {row zchar : Nat}
    (found : alphabet.find? code = some (row, zchar)) :
    row < 3 ∧ firstLetter ≤ zchar ∧ zchar < 32 ∧ alphabet.character row zchar = code ∧
      ¬ (row = 2 ∧ zchar = firstLetter) := by
  obtain ⟨index, present, place⟩ := Option.map_eq_some_iff.mp found
  have chosen := List.find?_some present
  obtain ⟨apart, holds⟩ := of_decide_eq_true chosen
  obtain ⟨rfl, rfl⟩ := Prod.mk.inj place
  have bound := index.isLt
  have same : cell (index.val / rowLength) (index.val % rowLength + firstLetter) = index := by
    apply Fin.ext
    simp only [cell, rowLength, firstLetter]
    omega
  simp only [character, same]
  simp only [rowLength, firstLetter, escapeCell] at apart ⊢
  exact ⟨by omega, by omega, by omega, holds, by omega⟩

theorem ofCodes_lt {codes : List Nat} (narrow : ∀ code ∈ codes, code < 256) (index : Fin 78) :
    ((ofCodes codes).cells.get index).toNat < 256 := by
  have small : codes.getD index 0 < 256 := by
    rw [List.getD_eq_getElem?_getD]
    cases listed : codes[index.val]? with
    | none => simp
    | some code => exact narrow code (List.mem_of_getElem? listed)
  have cell : (ofCodes codes).cells.get index = UInt16.ofNat (codes.getD index 0) :=
    Vector.getElem_ofFn index.isLt
  rw [cell, UInt16.toNat_ofNat']
  omega

theorem ofTable_lt {memory : Memory} {address : Nat} {alphabet : Alphabet}
    (readable : ofTable memory address = .ok alphabet) (index : Fin 78) :
    (alphabet.cells.get index).toNat < 256 := by
  unfold ofTable at readable
  cases bytes : memory.readBytes address 78 with
  | error error => simp [bytes, bind, Except.bind] at readable
  | ok bytes' =>
    simp only [bytes, bind, Except.bind, pure, Except.pure] at readable
    rw [← Except.ok.inj readable]
    apply ofCodes_lt
    intro code member
    rcases List.mem_or_eq_of_mem_set member with member | rfl
    · rcases List.mem_or_eq_of_mem_set member with member | rfl
      · obtain ⟨byte, _, rfl⟩ := List.mem_map.mp member
        exact byte.toNat_lt
      · decide
    · decide

/-- Alphabets hold codes of one byte, wherever they come from. -/
theorem ofStory_lt {story : Story} {alphabet : Alphabet} (readable : ofStory story = .ok alphabet)
    (index : Fin 78) : (alphabet.cells.get index).toNat < 256 := by
  simp only [ofStory] at readable
  split at readable
  · cases readable
    exact ofCodes_lt (by decide) index
  · split at readable
    · exact ofTable_lt readable index
    · cases readable
      exact ofCodes_lt (by decide) index

theorem find?_lt {story : Story} {alphabet : Alphabet} (readable : ofStory story = .ok alphabet)
    {code : Zscii} {place : Nat × Nat} (found : alphabet.find? code = some place) :
    code.toNat < 256 := by
  obtain ⟨_, _, _, rfl, _⟩ := find?_some found
  exact ofStory_lt readable _

end Alphabet

namespace ZString

theorem packWord_toNat (first second third : ZChar) :
    (packWord first second third).toNat = 1024 * first.val + 32 * second.val + third.val := by
  simp only [packWord, UInt16.toNat_ofNat']
  omega

theorem markedWord_toNat (first second third : ZChar) :
    (packWord first second third + 0x8000).toNat =
      0x8000 + (1024 * first.val + 32 * second.val + third.val) := by
  have mark : (0x8000 : UInt16).toNat = 0x8000 := rfl
  rw [UInt16.toNat_add, packWord_toNat, mark]
  omega

private theorem unpackWord_of_toNat {value : UInt16} {first second third : ZChar} (mark : Nat)
    (split : value.toNat = 0x8000 * mark + (1024 * first.val + 32 * second.val + third.val)) :
    unpackWord value = [first, second, third] := by
  simp only [unpackWord, split, List.cons.injEq, and_true]
  refine ⟨Fin.ext ?_, Fin.ext ?_, Fin.ext ?_⟩ <;> simp only [Fin.val_ofNat] <;> omega

private theorem unpackWord_packWord (first second third : ZChar) :
    unpackWord (packWord first second third) = [first, second, third] :=
  unpackWord_of_toNat 0 (by rw [packWord_toNat]; omega)

private theorem unpackWord_markedWord (first second third : ZChar) :
    unpackWord (packWord first second third + 0x8000) = [first, second, third] :=
  unpackWord_of_toNat 1 (by rw [markedWord_toNat])

/-- Packed z-characters come back in their order, whether or not their word is marked. -/
theorem unpack_pack (zchars : List ZChar) (whole : 3 ∣ zchars.length) :
    unpack (pack zchars) = zchars := by
  fun_induction pack zchars with
  | case1 first second third rest empty ih =>
    have nothing : rest = [] := by
      rw [← ih (by simp only [List.length_cons] at whole; omega), empty]
      rfl
    simp [unpack, unpackWord_markedWord, nothing]
  | case2 first second third rest full ih =>
    have others := ih (by simp only [List.length_cons] at whole; omega)
    simp only [unpack, List.flatMap_cons, unpackWord_packWord] at others ⊢
    simp [others]
  | case3 rest short =>
    match rest, whole, short with
    | [], _, _ => rfl
    | [_], whole, _ => simp at whole
    | [_, _], whole, _ => simp at whole
    | _ :: _ :: _ :: _, _, short => exact absurd rfl (short _ _ _ _)

theorem pack_ne_nil {zchars : List ZChar} (enough : 3 ≤ zchars.length) : pack zchars ≠ [] := by
  fun_induction pack zchars with
  | case1 | case2 => simp
  | case3 rest short =>
    match rest, enough, short with
    | _ :: _ :: _ :: _, _, short => exact absurd rfl (short _ _ _ _)

theorem pack_terminated (zchars : List ZChar) (nonempty : pack zchars ≠ []) :
    Terminated (pack zchars) := by
  fun_induction pack zchars with
  | case1 first second third rest empty ih =>
    refine ⟨[], _, rfl, ?_, by simp⟩
    rw [← isLast_eq_testBit, isLast, decide_eq_true_eq, UInt16.le_iff_toNat_le, markedWord_toNat]
    exact Nat.le_add_right _ _
  | case2 first second third rest full ih =>
    obtain ⟨front, last, same, marked, unmarked⟩ := ih full
    refine ⟨packWord first second third :: front, last, by rw [same]; rfl, marked, ?_⟩
    intro value member
    rcases List.mem_cons.mp member with rfl | member
    · rw [Nat.testBit_eq_decide_div_mod_eq, packWord_toNat, decide_eq_false_iff_not]
      omega
    · exact unmarked value member
  | case3 rest short => exact absurd rfl nonempty

end ZString

namespace Decoding
open Encoding

variable (alphabet : Alphabet) (scheme : ShiftScheme)
  (expand : ZChar → ZChar → Except Error Decoded)

theorem meaning_letter (zchar : ZChar) (letter : Alphabet.firstLetter ≤ zchar.val) :
    meaning scheme zchar = .letter := by
  cases scheme <;> revert zchar <;> decide

/-- A letter is taken from the row that is shifted to, and the shift is used up. -/
theorem take_letter (shifted : Option (Fin 3)) (reversed : List Zscii) (warnings : List Error)
    (zchar : ZChar) (letter : Alphabet.firstLetter ≤ zchar.val)
    (apart : ¬ (shifted.getD 0 = 2 ∧ zchar.val = Alphabet.firstLetter)) :
    take alphabet scheme expand { shifted, reversed, warnings } zchar =
      .ok { reversed := alphabet.character (shifted.getD 0) zchar :: reversed, warnings } := by
  simp only [take, takeCharacter, meaning_letter scheme zchar letter, apart, ite_false, State.emit]

theorem take_shiftSecond (reversed : List Zscii) (warnings : List Error) :
    take alphabet scheme expand { reversed, warnings } (shifts scheme).1 =
      .ok { shifted := some 1, reversed, warnings } := by
  cases scheme <;> rfl

theorem take_shiftThird (reversed : List Zscii) (warnings : List Error) :
    take alphabet scheme expand { reversed, warnings } (shifts scheme).2 =
      .ok { shifted := some 2, reversed, warnings } := by
  cases scheme <;> rfl

theorem take_escape (reversed : List Zscii) (warnings : List Error) :
    take alphabet scheme expand { shifted := some 2, reversed, warnings } 6 =
      .ok { expecting := .escape, reversed, warnings } := by
  cases scheme <;> rfl

/-- The two halves of an escape carry ten bits of a code. -/
theorem escaped_code (code : Zscii) :
    UInt16.ofNat (32 * (Fin.ofNat 32 (code.toNat / 32)).val + (Fin.ofNat 32 code.toNat).val) =
      code % 1024 := by
  have width : (1024 : UInt16).toNat = 1024 := rfl
  apply UInt16.toNat.inj
  rw [UInt16.toNat_mod, width]
  simp only [Fin.val_ofNat, UInt16.toNat_ofNat']
  omega

theorem mod_eq_self {code : Zscii} (small : code.toNat < 1024) : code % 1024 = code := by
  have width : (1024 : UInt16).toNat = 1024 := rfl
  apply UInt16.toNat.inj
  rw [UInt16.toNat_mod, width]
  exact Nat.mod_eq_of_lt small

/-- The z-characters of one character bring the decoder from rest to rest, and what they add to the
text is the character itself, as far as ten bits can tell it. -/
theorem take_zchars (narrow : ∀ place, alphabet.find? code = some place → code.toNat < 1024)
    (reversed : List Zscii) (warnings : List Error) :
    (zchars alphabet scheme code).foldlM (take alphabet scheme expand) { reversed, warnings } =
      .ok { reversed := code % 1024 :: reversed, warnings } := by
  unfold zchars
  by_cases blank : code = Zscii.space
  · subst blank
    cases scheme <;> rfl
  by_cases ending : code = Zscii.newLine ∧ scheme = .legacy
  · obtain ⟨rfl, rfl⟩ := ending
    rfl
  simp only [blank, ending, ite_false]
  cases found : alphabet.find? code with
  | none =>
    simp only [List.foldlM_cons, List.foldlM_nil, take_shiftThird, take_escape, bind, Except.bind]
    rw [← escaped_code code]
    rfl
  | some place =>
    obtain ⟨row, zchar⟩ := place
    obtain ⟨inside, letter, bound, same, apart⟩ := Alphabet.find?_some found
    have value : (Fin.ofNat 32 zchar).val = zchar := Nat.mod_eq_of_lt bound
    have taken (shifted : Option (Fin 3)) (selected : (shifted.getD 0).val = row) :
        take alphabet scheme expand { shifted, reversed, warnings } (Fin.ofNat 32 zchar) =
          .ok { reversed := code % 1024 :: reversed, warnings } := by
      rw [mod_eq_self (narrow _ found), ← same, ← selected]
      rw [take_letter _ _ _ shifted _ _ _ (value.symm ▸ letter)]
      · simp only [value]
      · rintro ⟨third, first⟩
        exact apart ⟨by rw [← selected, third]; rfl, value.symm.trans first⟩
    match row, inside, taken with
    | 0, _, taken =>
      simp only [List.foldlM_cons, List.foldlM_nil, taken none rfl, bind, Except.bind]
      rfl
    | 1, _, taken =>
      simp only [List.foldlM_cons, List.foldlM_nil, take_shiftSecond, taken (some 1) rfl, bind,
        Except.bind]
      rfl
    | 2, _, taken =>
      simp only [List.foldlM_cons, List.foldlM_nil, take_shiftThird, taken (some 2) rfl, bind,
        Except.bind]
      rfl

/-- A text is added in its order, each character as ten bits tell it. -/
theorem take_text (text : List Zscii)
    (narrow : ∀ code place, alphabet.find? code = some place → code.toNat < 1024)
    (reversed : List Zscii) (warnings : List Error) :
    (text.flatMap (zchars alphabet scheme)).foldlM (take alphabet scheme expand)
        { reversed, warnings } =
      .ok { reversed := (text.map (· % 1024)).reverse ++ reversed, warnings } := by
  induction text generalizing reversed with
  | nil => rfl
  | cons code rest ih =>
    rw [List.flatMap_cons, List.foldlM_append, take_zchars _ _ _ (narrow code)]
    simp only [bind, Except.bind, ih, List.map_cons, List.reverse_cons, List.append_assoc,
      List.cons_append, List.nil_append]

/-- Padding adds nothing to the text, whatever shift or lock it leaves. -/
theorem take_padding (count : Nat) (state : State) (character : state.expecting = .character) :
    ∃ final, (List.replicate count ZString.padding).foldlM (take alphabet scheme expand) state =
        .ok final ∧ final.expecting = .character ∧ final.reversed = state.reversed ∧
        final.warnings = state.warnings := by
  induction count generalizing state with
  | zero => exact ⟨state, rfl, character, rfl, rfl⟩
  | succ count ih =>
    obtain ⟨next, taken, resting, text, warned⟩ : ∃ next,
        take alphabet scheme expand state ZString.padding = .ok next ∧
          next.expecting = .character ∧ next.reversed = state.reversed ∧
          next.warnings = state.warnings := by
      simp only [take, character]
      cases scheme
      all_goals exact ⟨_, rfl, character, rfl, rfl⟩
    obtain ⟨final, later, finish⟩ := ih next resting
    refine ⟨final, ?_, by rw [← text, ← warned]; exact finish⟩
    simpa only [List.replicate_succ, List.foldlM_cons, taken, bind, Except.bind] using later

end Decoding

namespace Encoding

theorem le_paddedLength (length : Nat) :
    length ≤ paddedLength length ∧ 3 ≤ paddedLength length ∧ 3 ∣ paddedLength length := by
  simp only [paddedLength]
  omega

/-- Filling up to whole words keeps all z-characters. -/
theorem fit_paddedLength (encoded : List ZChar) :
    ZString.fit (paddedLength encoded.length) encoded =
      encoded ++ List.replicate (paddedLength encoded.length - encoded.length) ZString.padding := by
  rw [ZString.fit, List.take_of_length_le (le_paddedLength _).1]

theorem fit_length (encoded : List ZChar) :
    (ZString.fit (paddedLength encoded.length) encoded).length = paddedLength encoded.length := by
  have enough := (le_paddedLength encoded.length).1
  rw [fit_paddedLength, List.length_append, List.length_replicate]
  omega

end Encoding

namespace Decoding
open Encoding ZString

section Packed

variable (alphabet : Alphabet) (scheme : ShiftScheme)
  (expand : ZChar → ZChar → Except Error Decoded)

/-- Packed z-characters are decoded one after the other. -/
theorem decode_of_run {encoded : List ZChar} {final : State} (whole : 3 ∣ encoded.length)
    (run : encoded.foldlM (take alphabet scheme expand) {} = .ok final) :
    decode alphabet scheme expand (pack encoded) = .ok final.finish := by
  simp only [decode, unpack_pack encoded whole, run, bind, Except.bind, pure, Except.pure]

/-- What follows at rest up to a number of z-characters is padding and adds nothing. -/
theorem decode_of_rest {encoded : List ZChar} {reversed : List Zscii} {warnings : List Error}
    {length : Nat} (whole : 3 ∣ length) (fits : encoded.length ≤ length)
    (run : encoded.foldlM (take alphabet scheme expand) {} = .ok { reversed, warnings }) :
    decode alphabet scheme expand (pack (fit length encoded)) =
      .ok ⟨reversed.reverse, warnings⟩ := by
  obtain ⟨final, padded, character, text, warned⟩ := take_padding alphabet scheme expand
    (length - encoded.length) { reversed, warnings } rfl
  have filled : fit length encoded =
      encoded ++ List.replicate (length - encoded.length) padding := by
    rw [fit, List.take_of_length_le fits]
  have multiple : 3 ∣ (fit length encoded).length := by
    rw [filled, List.length_append, List.length_replicate]
    omega
  have ran : (fit length encoded).foldlM (take alphabet scheme expand) {} = .ok final := by
    rw [filled, List.foldlM_append, run]
    exact padded
  rw [decode_of_run alphabet scheme expand multiple ran]
  simp only [State.finish, character, text, warned, List.append_nil]

/-- The words of a text decode to the text: what follows it up to the end of its last word is
padding. -/
theorem decode_pack (text : List Zscii)
    (narrow : ∀ code place, alphabet.find? code = some place → code.toNat < 1024) :
    let encoded := text.flatMap (zchars alphabet scheme)
    decode alphabet scheme expand (pack (fit (paddedLength encoded.length) encoded)) =
      .ok ⟨text.map (· % 1024), []⟩ := by
  intro encoded
  obtain ⟨enough, -, whole⟩ := le_paddedLength encoded.length
  have run := take_text alphabet scheme expand text narrow [] []
  rw [decode_of_rest alphabet scheme expand whole enough run, List.append_nil,
    List.reverse_reverse]

end Packed

end Decoding

namespace Story
open Decoding Encoding

theorem narrow_of_readable {story : Story} {alphabet : Alphabet}
    (readable : Alphabet.ofStory story = .ok alphabet) :
    ∀ code place, alphabet.find? code = some place → code.toNat < 1024 := by
  intro code place found
  exact Nat.lt_trans (Alphabet.find?_lt readable found) (by decide)

/-- What text is encoded to depends on the alphabet and the version only. -/
theorem encode_eq {story : Story} {alphabet : Alphabet}
    (readable : Alphabet.ofStory story = .ok alphabet) (text : List Zscii) :
    let encoded := text.flatMap (zchars alphabet story.version.shiftScheme)
    story.encode text = .ok (ZString.pack (ZString.fit (paddedLength encoded.length) encoded)) := by
  simp only [encode, readable, bind, Except.bind, pure, Except.pure]

theorem terminated_of_encode {story : Story} {alphabet : Alphabet}
    (readable : Alphabet.ofStory story = .ok alphabet) {text : List Zscii} {words : List UInt16}
    (encoded : story.encode text = .ok words) : ZString.Terminated words := by
  rw [encode_eq readable] at encoded
  cases encoded
  apply ZString.pack_terminated
  apply ZString.pack_ne_nil
  rw [fit_length]
  exact (le_paddedLength _).2.1

/-- Encoding always succeeds where the alphabet can be read, marks the last word and no other, and
is undone by decoding, without warnings; codes keep their low ten bits. Wherever the words are
stored, they are read back as they are. -/
theorem decodeWords_encode {story : Story} {alphabet : Alphabet}
    (readable : Alphabet.ofStory story = .ok alphabet) (text : List Zscii) :
    ∃ words, story.encode text = .ok words ∧ ZString.Terminated words ∧
      story.decodeWords words = .ok ⟨text.map (· % 1024), []⟩ ∧
      ((∀ code ∈ text, code < 1024) → story.decodeWords words = .ok ⟨text, []⟩) ∧
      ∀ (memory : Memory) (address : Nat), memory.Holds address (wordBytes words) →
        memory.textWords address = .ok words := by
  let encoded := text.flatMap (zchars alphabet story.version.shiftScheme)
  let filled := ZString.fit (paddedLength encoded.length) encoded
  have packed : story.encode text = .ok (ZString.pack filled) := encode_eq readable text
  have terminated := terminated_of_encode readable packed
  have decoded : story.decodeWords (ZString.pack filled) = .ok ⟨text.map (· % 1024), []⟩ := by
    simp only [decodeWords, readable, bind, Except.bind]
    exact decode_pack alphabet story.version.shiftScheme story.abbreviation text
      (narrow_of_readable readable)
  refine ⟨ZString.pack filled, packed, terminated, decoded, ?_, ?_⟩
  · intro small
    have unchanged : text.map (· % 1024) = text.map id := by
      apply List.map_congr_left
      intro code member
      exact mod_eq_self (UInt16.lt_iff_toNat_lt.mp (small code member))
    rw [decoded, unchanged, List.map_id]
  · intro memory address held
    exact Memory.textWords_of_holds terminated held

/-- A story of version 5 whose own alphabet table, right after the header, is all zeros. -/
def zeroAlphabet : Story where
  format := ⟨.v5, 0, 0⟩
  memory := .ofStatic ((Array.replicate 142 0).setIfInBounds 0x35 0x40) (by simp [headerSize])

theorem zeroAlphabet_readable : Alphabet.ofStory zeroAlphabet =
    .ok (.ofCodes (((List.replicate 78 0).set 52 0).set 53 13)) := by
  decide +kernel

theorem decodeWords_encode_zeroAlphabet :
    ∃ words, zeroAlphabet.encode [0, 104, 13, 32, 2000] = .ok words ∧
      ZString.Terminated words ∧
      zeroAlphabet.decodeWords words = .ok ⟨[0, 104, 13, 32, 976], []⟩ := by
  obtain ⟨words, encoded, terminated, decoded, _⟩ :=
    decodeWords_encode zeroAlphabet_readable [0, 104, 13, 32, 2000]
  exact ⟨words, encoded, terminated, decoded⟩

end Story

end StoryMachine
