import StoryMachine.Proofs.TextRoundTrip

/-! Abbreviations in encoded text. A z-character that names a bank announces an abbreviation, and
the next one is its index, whatever it would mean elsewhere. The decoder is at rest before the two
and after them, so what stands around an abbreviation decodes as if it were not there. -/

namespace StoryMachine

/-- A z-character names a bank of abbreviations that a version has. -/
def Version.HasBank (version : Version) (bank : ZChar) : Prop :=
  1 ≤ bank.val ∧ bank.val ≤ version.abbreviationBanks

instance (version : Version) (bank : ZChar) : Decidable (version.HasBank bank) :=
  inferInstanceAs (Decidable (_ ∧ _))

/-- The z-characters of a text, of an abbreviation and of the text after it. -/
def Encoding.abbreviated (alphabet : Alphabet) (scheme : ShiftScheme) (first : List Zscii)
    (bank index : ZChar) (second : List Zscii) : List ZChar :=
  first.flatMap (zchars alphabet scheme) ++ [bank, index] ++
    second.flatMap (zchars alphabet scheme)

namespace Decoding
open Encoding ZString

/-- Which z-characters announce abbreviations is fixed by the number of banks. -/
theorem meaning_eq_abbreviation_iff (version : Version) (bank : ZChar) :
    meaning version.shiftScheme bank = .abbreviation ↔ version.HasBank bank := by
  revert bank
  cases version <;> decide

variable (alphabet : Alphabet) (scheme : ShiftScheme)
  (expand : ZChar → ZChar → Except Error Decoded)

/-- A bank and an index bring the decoder from rest to rest, and what they add is what they stand
for. -/
theorem take_abbreviation {bank index : ZChar} {text : Decoded}
    (announced : meaning scheme bank = .abbreviation) (known : expand bank index = .ok text)
    (reversed : List Zscii) (warnings : List Error) :
    [bank, index].foldlM (take alphabet scheme expand) { reversed, warnings } =
      .ok { reversed := text.text.reverse ++ reversed, warnings := warnings ++ text.warnings } := by
  have announces : take alphabet scheme expand { reversed, warnings } bank =
      .ok { expecting := .abbreviation bank, reversed, warnings } := by
    simp only [take, takeCharacter, announced]
  have expands : take alphabet scheme expand
      { expecting := .abbreviation bank, reversed, warnings } index =
        .ok { reversed := text.text.reverse ++ reversed,
              warnings := warnings ++ text.warnings } := by
    simp only [take, known, bind, Except.bind, pure, Except.pure, State.expand]
  simp only [List.foldlM_cons, List.foldlM_nil, announces, expands, bind, Except.bind]
  rfl

/-- Text around an abbreviation decodes to the text with what the abbreviation stands for in its
place. -/
theorem decode_abbreviated {bank index : ZChar} {text : Decoded}
    (announced : meaning scheme bank = .abbreviation) (known : expand bank index = .ok text)
    (narrow : ∀ code place, alphabet.find? code = some place → code.toNat < 1024)
    (first second : List Zscii) :
    let encoded := abbreviated alphabet scheme first bank index second
    decode alphabet scheme expand (pack (fit (paddedLength encoded.length) encoded)) =
      .ok ⟨first.map (· % 1024) ++ text.text ++ second.map (· % 1024), text.warnings⟩ := by
  intro encoded
  have run : encoded.foldlM (take alphabet scheme expand) {} =
      .ok { reversed := (second.map (· % 1024)).reverse ++
              (text.text.reverse ++ ((first.map (· % 1024)).reverse ++ [])),
            warnings := [] ++ text.warnings } := by
    simp only [encoded, abbreviated]
    rw [List.foldlM_append, List.foldlM_append, take_text alphabet scheme expand first narrow]
    simp only [bind, Except.bind, take_abbreviation alphabet scheme expand announced known]
    exact take_text alphabet scheme expand second narrow _ _
  obtain ⟨enough, -, whole⟩ := le_paddedLength encoded.length
  rw [decode_of_rest alphabet scheme expand whole enough run]
  simp

end Decoding

namespace Story
open Decoding Encoding

variable {story : Story} {alphabet : Alphabet}

def abbreviationEntry (story : Story) (bank index : ZChar) : Nat :=
  (story.memory.headerWord .abbreviationsTable).toNat + 2 * (32 * (bank.val - 1) + index.val)

/-- An abbreviation whose entry leads to the words of a text stands for that text. -/
theorem abbreviation_of_stored (readable : Alphabet.ofStory story = .ok alphabet)
    {bank index : ZChar} {text : List Zscii} {words : List UInt16} {entry : UInt16}
    (encoded : story.encode text = .ok words)
    (listed : story.memory.readWord (story.abbreviationEntry bank index) = .ok entry)
    (stored : story.memory.Holds (2 * entry.toNat) (wordBytes words)) :
    story.abbreviation bank index = .ok ⟨text.map (· % 1024), []⟩ := by
  have terminated := terminated_of_encode readable encoded
  have found : story.memory.textWords (entry.toNat * 2) = .ok words := by
    rw [Nat.mul_comm]
    exact Memory.textWords_of_holds terminated stored
  have place : (story.memory.headerWord .abbreviationsTable).toNat +
      ((bank.val - 1) * 32 + index.val) * 2 = story.abbreviationEntry bank index := by
    rw [abbreviationEntry]
    omega
  rw [encode_eq readable] at encoded
  cases encoded
  simp only [abbreviation, place, listed, found, decodeAbbreviation, readable, bind, Except.bind]
  exact decode_pack alphabet story.version.shiftScheme _ text (narrow_of_readable readable)

/-- An abbreviation expands in place: text around it decodes to the text with what it stands for
between the two parts, without warnings. Inside of an abbreviation the same words decode to the
parts alone, with one warning; this depends on the alphabet only, so that no entry of a table is
read. -/
theorem abbreviation_expands_in_place (readable : Alphabet.ofStory story = .ok alphabet)
    {bank index : ZChar} (allowed : story.version.HasBank bank) {text : List Zscii}
    {words : List UInt16} {entry : UInt16} (encoded : story.encode text = .ok words)
    (listed : story.memory.readWord (story.abbreviationEntry bank index) = .ok entry)
    (stored : story.memory.Holds (2 * entry.toNat) (wordBytes words))
    (first second : List Zscii) :
    let sequence := abbreviated alphabet story.version.shiftScheme first bank index second
    let packed := ZString.pack (ZString.fit (paddedLength sequence.length) sequence)
    story.decodeWords packed = .ok ⟨(first ++ text ++ second).map (· % 1024), []⟩ ∧
      ∀ other : Story, other.version = story.version → Alphabet.ofStory other = .ok alphabet →
        ∃ warning, warning.code = .nestedAbbreviation ∧
          other.decodeAbbreviation packed = .ok ⟨(first ++ second).map (· % 1024), [warning]⟩ := by
  intro sequence packed
  have announced := (meaning_eq_abbreviation_iff story.version bank).mpr allowed
  have narrow := narrow_of_readable readable
  constructor
  · have known := abbreviation_of_stored readable encoded listed stored
    simp only [decodeWords, readable, bind, Except.bind, List.map_append]
    exact decode_abbreviated alphabet _ _ announced known narrow first second
  · intro other version readable'
    refine ⟨.abbreviationNested bank index, rfl, ?_⟩
    simp only [decodeAbbreviation, readable', version, bind, Except.bind, List.map_append]
    rw [decode_abbreviated alphabet _ _ announced rfl narrow first second, List.append_nil]

/-- A story of version 3 with a table of abbreviations right after the header. The second one of the
second bank is the letters th and a code that does not fit in ten bits. -/
def abbreviating : Story where
  format := ⟨.v3, 0, 0⟩
  memory := .ofStatic (imageOfBytes 0x8c [(0x19, 0x40), (0x83, 0x44), (0x88, 0x65), (0x89, 0xa5),
    (0x8a, 0x9b), (0x8b, 0xd0)]) (by simp [imageOfBytes, headerSize])

/-- The escape before the abbreviation has the z-characters of a bank and of a space in it, and the
index is the z-character of a bank. -/
theorem abbreviation_expands_in_place_abbreviating :
    let sequence := abbreviated .standard .shifting [96] 2 1 [65]
    let packed := ZString.pack (ZString.fit (paddedLength sequence.length) sequence)
    sequence = [5, 6, 3, 0, 2, 1, 4, 6] ∧
      abbreviating.decodeWords packed = .ok ⟨[96, 116, 104, 976, 65], []⟩ ∧
      ∃ warning, warning.code = .nestedAbbreviation ∧
        abbreviating.decodeAbbreviation packed = .ok ⟨[96, 65], [warning]⟩ := by
  intro sequence packed
  have readable : Alphabet.ofStory abbreviating = .ok .standard := by decide +kernel
  have encoded : abbreviating.encode [116, 104, 2000] = .ok [0x65a5, 0x9bd0] := by decide +kernel
  have listed : abbreviating.memory.readWord (abbreviating.abbreviationEntry 2 1) = .ok 0x44 := by
    decide +kernel
  have stored : abbreviating.memory.Holds (2 * (0x44 : UInt16).toNat)
      (wordBytes [0x65a5, 0x9bd0]) := by
    decide +kernel
  have allowed : abbreviating.version.HasBank 2 := by decide
  obtain ⟨expanded, nested⟩ :=
    abbreviation_expands_in_place readable allowed encoded listed stored [96] [65]
  exact ⟨by decide +kernel, expanded, nested abbreviating rfl readable⟩

end Story

end StoryMachine
