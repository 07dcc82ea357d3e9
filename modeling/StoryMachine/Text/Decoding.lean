import StoryMachine.Text.Alphabet
import StoryMachine.Text.ZString

/-! Decoding text. The decoder takes z-characters one at a time; its state says which row the
next one selects from and whether it belongs to an abbreviation or to an escape. Problems that
only cost a character are warnings. -/

namespace StoryMachine

/-- Decoded text, with what went wrong on the way. -/
structure Decoded where
  text : List Zscii := []
  warnings : List Error := []
  deriving DecidableEq

def Decoded.append (first second : Decoded) : Decoded :=
  ⟨first.text ++ second.text, first.warnings ++ second.warnings⟩

namespace Decoding

/-- What the next z-character means. -/
inductive Expecting where
  | character
  /-- The index of an abbreviation of this bank. -/
  | abbreviation (bank : ZChar)
  /-- The upper half of a character's code. -/
  | escape
  /-- The lower half of a character's code. -/
  | escapeLow (high : ZChar)
  deriving DecidableEq

structure State where
  locked : Fin 3 := 0
  /-- The row for the next z-character only. -/
  shifted : Option (Fin 3) := none
  expecting : Expecting := .character
  /-- The text so far, last character first. -/
  reversed : List Zscii := []
  warnings : List Error := []
  deriving DecidableEq

namespace State

def emit (state : State) (code : Zscii) : State :=
  { state with reversed := code :: state.reversed }

def expand (state : State) (text : Decoded) : State :=
  { state with
    reversed := text.text.reverse ++ state.reversed
    warnings := state.warnings ++ text.warnings }

/-- The text, with a warning if it stops short of what it announced. -/
def finish (state : State) : Decoded :=
  let cutOff := match state.expecting with
    | .character => []
    | .abbreviation bank => [.abbreviationCutOff bank]
    | .escape | .escapeLow _ => [.escapeCutOff]
  ⟨state.reversed.reverse, state.warnings ++ cutOff⟩

end State

/-- The meaning of a z-character in a shift scheme. -/
inductive Meaning where
  | space
  | newLine
  | abbreviation
  /-- Shift by this many rows for the next z-character. -/
  | shift (rows : Fin 3)
  /-- Select this row for the next z-character. -/
  | select (row : Fin 3)
  /-- Shift by this many rows from now on. -/
  | lock (rows : Fin 3)
  | letter
  deriving DecidableEq

def meaning (scheme : ShiftScheme) (zchar : ZChar) : Meaning :=
  match zchar.val, scheme with
  | 0, _ => .space
  | 1, .legacy => .newLine
  | 1, _ => .abbreviation
  | 2, .shifting => .abbreviation
  | 3, .shifting => .abbreviation
  | 2, _ => .shift 1
  | 3, _ => .shift 2
  | 4, .shifting => .select 1
  | 5, .shifting => .select 2
  | 4, _ => .lock 1
  | 5, _ => .lock 2
  | _, _ => .letter

/-- Take a z-character that is not an index or part of an escape. -/
def takeCharacter (alphabet : Alphabet) (scheme : ShiftScheme) (state : State) (zchar : ZChar) :
    State :=
  let row := state.shifted.getD state.locked
  let state := { state with shifted := none }
  match meaning scheme zchar with
  | .space => state.emit Zscii.space
  | .newLine => state.emit Zscii.newLine
  | .abbreviation => { state with expecting := .abbreviation zchar }
  | .shift rows => { state with shifted := some (state.locked + rows) }
  | .select row => { state with shifted := some row }
  | .lock rows => { state with locked := state.locked + rows }
  | .letter =>
    if row = 2 ∧ zchar.val = Alphabet.firstLetter then { state with expecting := .escape }
    else state.emit (alphabet.character row zchar)

/-- Take the next z-character. `expand` gives the text of an abbreviation. -/
def take (alphabet : Alphabet) (scheme : ShiftScheme)
    (expand : ZChar → ZChar → Except Error Decoded) (state : State) (zchar : ZChar) :
    Except Error State :=
  match state.expecting with
  | .character => .ok (takeCharacter alphabet scheme state zchar)
  | .abbreviation bank => do
    let text ← expand bank zchar
    return { state with expecting := .character }.expand text
  | .escape => .ok { state with expecting := .escapeLow zchar }
  | .escapeLow high =>
    .ok ({ state with expecting := .character }.emit (UInt16.ofNat (32 * high.val + zchar.val)))

def decode (alphabet : Alphabet) (scheme : ShiftScheme)
    (expand : ZChar → ZChar → Except Error Decoded) (words : List UInt16) :
    Except Error Decoded := do
  let state ← (ZString.unpack words).foldlM (take alphabet scheme expand) {}
  return state.finish

end Decoding

namespace Story
open Decoding

/-- Decode the text of an abbreviation, in which further abbreviations are only warned of. -/
def decodeAbbreviation (story : Story) (words : List UInt16) : Except Error Decoded := do
  let alphabet ← Alphabet.ofStory story
  decode alphabet story.version.shiftScheme
    (fun bank index => .ok { warnings := [.abbreviationNested bank index] }) words

/-- The text of the abbreviation with this index in a bank. Its table entry is a word address. -/
def abbreviation (story : Story) (bank index : ZChar) : Except Error Decoded := do
  let table := (story.memory.headerWord .abbreviationsTable).toNat
  let entry := (bank.val - 1) * 32 + index.val
  let address ← story.memory.readWord (table + entry * 2)
  let words ← story.memory.textWords (address.toNat * 2)
  story.decodeAbbreviation words

def decodeWords (story : Story) (words : List UInt16) : Except Error Decoded := do
  let alphabet ← Alphabet.ofStory story
  decode alphabet story.version.shiftScheme story.abbreviation words

def decodeAt (story : Story) (address : Nat) : Except Error Decoded := do
  let words ← story.memory.textWords address
  story.decodeWords words

end Story

end StoryMachine
