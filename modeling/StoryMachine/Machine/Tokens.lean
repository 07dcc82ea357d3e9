import StoryMachine.Dictionary.Lookup
import StoryMachine.Dictionary.Words
import StoryMachine.Machine.Basic

/-! Lexical analysis: the words of a text buffer are looked up in a dictionary and noted in a
parse buffer, which has room for as many as its first byte tells. -/

namespace StoryMachine

def Version.textOffset (version : Version) : Nat :=
  if version < .v5 then 1 else 2

namespace Update

/-- Note a word at a place of a parse buffer: the address of its entry, its length, and its
position in the text buffer. A word that has no entry is left out if `skipUnknown` is set. -/
def writeToken (dictionary : Nat) (skipUnknown : Bool) (place : Nat) (word : Word) :
    Update Unit := do
  let entry ← query (·.lookup? dictionary word.letters)
  let offset := (← get).version.textOffset
  if entry.isSome ∨ ¬ skipUnknown then
    writeWord place (UInt16.ofNat (entry.getD 0))
    writeByte (place + 2) (UInt8.ofNat word.letters.length)
    writeByte (place + 3) (UInt8.ofNat (word.start + offset))

def writeTokens (dictionary : Nat) (skipUnknown : Bool) (place : Nat) : List Word → Update Unit
  | [] => pure ()
  | word :: rest => do
    writeToken dictionary skipUnknown place word
    writeTokens dictionary skipUnknown (place + 4) rest

end Update

namespace Engine

variable {η : Type} [Presentation η]

/-- Note the words of a text buffer in a parse buffer. Words for which there is no room are
reported and dropped. -/
def tokenise (textBuffer parseBuffer dictionary : Nat) (skipUnknown : Bool) : Engine η Unit := do
  let separators ← query (·.separators dictionary)
  let text ← query (·.bufferText textBuffer)
  let words := Word.split text separators
  let capacity := (← query (·.memory.readByte parseBuffer)).toNat
  update (Update.writeTokens dictionary skipUnknown (parseBuffer + 2) (words.take capacity))
  if capacity < words.length then
    report (.parseBufferFull parseBuffer capacity words.length)
  update (Update.writeByte (parseBuffer + 1) (UInt8.ofNat (min words.length capacity)))

end Engine

end StoryMachine
