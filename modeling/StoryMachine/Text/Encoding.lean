import StoryMachine.Text.Alphabet
import StoryMachine.Text.ZString

/-! Encoding text. The encoder never locks a row: it shifts for every character that is not in
the first one, and spells a character that is in none by its code. -/

namespace StoryMachine

namespace Encoding

/-- The z-characters that shift to the second and to the third row for one character. -/
def shifts : ShiftScheme → ZChar × ZChar
  | .shifting => (4, 5)
  | _ => (2, 3)

def zchars (alphabet : Alphabet) (scheme : ShiftScheme) (code : Zscii) : List ZChar :=
  let (second, third) := shifts scheme
  if code = Zscii.space then [0]
  else if code = Zscii.newLine ∧ scheme = .legacy then [1]
  else match alphabet.find? code with
    | some (0, zchar) => [Fin.ofNat 32 zchar]
    | some (1, zchar) => [second, Fin.ofNat 32 zchar]
    | some (_, zchar) => [third, Fin.ofNat 32 zchar]
    | none => [third, 6, Fin.ofNat 32 (code.toNat / 32), Fin.ofNat 32 code.toNat]

/-- The least number of z-characters that fills whole words, and at least one of them. -/
def paddedLength (length : Nat) : Nat :=
  max ((length + 2) / 3) 1 * 3

end Encoding

namespace Story
open Encoding

def encode (story : Story) (text : List Zscii) : Except Error (List UInt16) := do
  let alphabet ← Alphabet.ofStory story
  let encoded := text.flatMap (zchars alphabet story.version.shiftScheme)
  return ZString.pack (ZString.fit (paddedLength encoded.length) encoded)

/-- Encode a word as dictionaries hold it, cut or filled to a fixed length. -/
def encodeDictionaryWord (story : Story) (text : List Zscii) : Except Error (List UInt16) := do
  let alphabet ← Alphabet.ofStory story
  let encoded := text.flatMap (zchars alphabet story.version.shiftScheme)
  return ZString.pack (ZString.fit story.version.dictionaryWordLength encoded)

end Story

end StoryMachine
