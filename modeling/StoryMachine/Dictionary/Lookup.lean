import StoryMachine.Text.Encoding

/-! Looking up words in a dictionary: a list of separators, then entries of equal length that
start with an encoded word. A positive count says that the entries are in order, and then they
are searched by halving; otherwise they are scanned from the first. -/

namespace StoryMachine

/-- Where the entries of a dictionary are. -/
structure Dictionary where
  /-- The address of the first entry. -/
  entries : Nat
  entryLength : Nat
  /-- How many entries there are, negative if they are in no order. -/
  count : Int
  deriving DecidableEq, Repr

namespace Dictionary

def entry (dictionary : Dictionary) (index : Nat) : Nat :=
  dictionary.entries + index * dictionary.entryLength

def compareEntry (memory : Memory) (address : Nat) : List UInt16 → Except Error Ordering
  | [] => .ok .eq
  | expected :: rest => do
    let found ← memory.readWord address
    match compare found.toNat expected.toNat with
    | .eq => compareEntry memory (address + 2) rest
    | order => return order

/-- Search the entries from `low` up to `high` by halving. -/
def search (dictionary : Dictionary) (memory : Memory) (encoded : List UInt16) (low high : Nat) :
    Except Error (Option Nat) :=
  if low < high then do
    let pivot := low + (high - low) / 2
    match ← compareEntry memory (dictionary.entry pivot) encoded with
    | .eq => return some (dictionary.entry pivot)
    | .lt => dictionary.search memory encoded (pivot + 1) high
    | .gt => dictionary.search memory encoded low pivot
  else
    return none
termination_by high - low

/-- Look at `remaining` entries in turn, from `index` on. -/
def scan (dictionary : Dictionary) (memory : Memory) (encoded : List UInt16) (index : Nat) :
    Nat → Except Error (Option Nat)
  | 0 => .ok none
  | remaining + 1 => do
    match ← compareEntry memory (dictionary.entry index) encoded with
    | .eq => return some (dictionary.entry index)
    | _ => dictionary.scan memory encoded (index + 1) remaining

def find? (dictionary : Dictionary) (memory : Memory) (encoded : List UInt16) :
    Except Error (Option Nat) :=
  if 0 < dictionary.count then
    dictionary.search memory encoded 0 dictionary.count.toNat
  else
    dictionary.scan memory encoded 0 dictionary.count.natAbs

end Dictionary

namespace Story

def separators (story : Story) (address : Nat) : Except Error (List Zscii) := do
  let count ← story.memory.readByte address
  let codes ← story.memory.readBytes (address + 1) count.toNat
  return codes.map UInt8.toUInt16

/-- The dictionary at an address. Its entries must have room for an encoded word. -/
def dictionary (story : Story) (address : Nat) : Except Error Dictionary := do
  let separatorCount ← story.memory.readByte address
  let header := address + separatorCount.toNat + 1
  let entryLength ← story.memory.readByte header
  let count ← story.memory.readWord (header + 1)
  let wordBytes := story.version.dictionaryWordBytes
  if entryLength.toNat < wordBytes then
    throw (.dictionaryEntryTooShort address entryLength.toNat wordBytes)
  return ⟨header + 3, entryLength.toNat, count.toInt16.toInt⟩

def lookup? (story : Story) (address : Nat) (text : List Zscii) : Except Error (Option Nat) := do
  let dictionary ← story.dictionary address
  let encoded ← story.encodeDictionaryWord text
  dictionary.find? story.memory encoded

/-- Bytes from an address up to a zero byte, at most `count` of them. -/
def bytesUntilZero (story : Story) (address : Nat) : Nat → Except Error (List UInt8)
  | 0 => .ok []
  | count + 1 => do
    let byte ← story.memory.readByte address
    if byte = 0 then
      return []
    return byte :: (← story.bytesUntilZero (address + 1) count)

/-- The text in an input buffer. Up to version 4 a zero byte ends it, later its length stands
before it. -/
def bufferText (story : Story) (buffer : Nat) : Except Error (List Zscii) := do
  let bytes ←
    if story.version < .v5 then do
      let capacity ← story.memory.readByte buffer
      story.bytesUntilZero (buffer + 1) capacity.toNat
    else do
      let length ← story.memory.readByte (buffer + 1)
      story.memory.readBytes (buffer + 2) length.toNat
  return bytes.map UInt8.toUInt16

end Story

namespace Update

/-- Store the dictionary form of `length` characters, found `offset` bytes after an address. -/
def encodeText (address length offset coded : Nat) : Update Unit := do
  let characters ← query (·.memory.readBytes (address + offset) length)
  let encoded ← query (·.encodeDictionaryWord (characters.map UInt8.toUInt16))
  writeWords coded encoded

end Update

end StoryMachine
