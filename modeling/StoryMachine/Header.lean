import StoryMachine.Memory

/-! The header: fields at fixed addresses below 64, flag words, and the extension table that
the header points to. The header lies in dynamic memory, so its fields can always be read and
written. -/

namespace StoryMachine

inductive HeaderField where
  | version
  | flags1
  | release
  | highMark
  | initialPC
  | dictionary
  | objectTable
  | globalTable
  | staticMark
  | flags2
  | serial
  | abbreviationsTable
  | fileLength
  | checksum
  | interpreterNumber
  | interpreterVersion
  | screenLines
  | screenColumns
  | screenWidth
  | screenHeight
  | fontWidth
  | fontHeight
  | routinesOffset
  | stringsOffset
  | defaultBackground
  | defaultForeground
  | terminatorTable
  | revision
  | alphabetTable
  | extensionTable
  deriving DecidableEq, Repr

def HeaderField.address : HeaderField → Nat
  | version => 0x00
  | flags1 => 0x01
  | release => 0x02
  | highMark => 0x04
  | initialPC => 0x06
  | dictionary => 0x08
  | objectTable => 0x0a
  | globalTable => 0x0c
  | staticMark => 0x0e
  | flags2 => 0x10
  | serial => 0x12
  | abbreviationsTable => 0x18
  | fileLength => 0x1a
  | checksum => 0x1c
  | interpreterNumber => 0x1e
  | interpreterVersion => 0x1f
  | screenLines => 0x20
  | screenColumns => 0x21
  | screenWidth => 0x22
  | screenHeight => 0x24
  | fontWidth => 0x26
  | fontHeight => 0x27
  | routinesOffset => 0x28
  | stringsOffset => 0x2a
  | defaultBackground => 0x2c
  | defaultForeground => 0x2d
  | terminatorTable => 0x2e
  | revision => 0x32
  | alphabetTable => 0x34
  | extensionTable => 0x36

/-! Masks for the first flag byte, up to version 3. -/
namespace EarlyFlag

def statusLineType : UInt8 := 0x02
def statusLineNotAvailable : UInt8 := 0x10
def screenSplitAvailable : UInt8 := 0x20
def variablePitchDefault : UInt8 := 0x40

end EarlyFlag

/-! Masks for the first flag byte, from version 4. -/
namespace ScreenFlag

def colours : UInt8 := 0x01
def pictures : UInt8 := 0x02
def boldface : UInt8 := 0x04
def italic : UInt8 := 0x08
def fixedSpace : UInt8 := 0x10
def timedInput : UInt8 := 0x80

end ScreenFlag

/-! Masks for the second flag word. -/
namespace GameFlag

def transcripting : UInt16 := 0x0001
def forceFixedPitch : UInt16 := 0x0002

end GameFlag

inductive ExtensionWord where
  | mouseX
  | mouseY
  | unicodeTable
  deriving DecidableEq, Repr

def ExtensionWord.index : ExtensionWord → Nat
  | mouseX => 1
  | mouseY => 2
  | unicodeTable => 3

namespace Memory

def headerByte (memory : Memory) (field : HeaderField) : UInt8 :=
  memory.byteAt field.address

def headerWord (memory : Memory) (field : HeaderField) : UInt16 :=
  memory.wordAt field.address

def setHeaderByte (memory : Memory) (field : HeaderField) (value : UInt8) : Memory :=
  memory.put field.address value

def setHeaderWord (memory : Memory) (field : HeaderField) (value : UInt16) : Memory :=
  memory.putWord field.address value

/-- Is the checksum of the story the one that its header states? -/
def isIntact (memory : Memory) : Bool :=
  memory.headerWord .checksum = memory.checksum

/-- Is any of the masked bits set in the first flag byte? -/
def hasFlag1 (memory : Memory) (mask : UInt8) : Bool :=
  memory.headerByte .flags1 &&& mask ≠ 0

def setFlag1 (memory : Memory) (mask : UInt8) : Memory :=
  memory.setHeaderByte .flags1 (memory.headerByte .flags1 ||| mask)

def clearFlag1 (memory : Memory) (mask : UInt8) : Memory :=
  memory.setHeaderByte .flags1 (memory.headerByte .flags1 &&& ~~~mask)

def hasFlag2 (memory : Memory) (mask : UInt16) : Bool :=
  memory.headerWord .flags2 &&& mask ≠ 0

def setFlag2 (memory : Memory) (mask : UInt16) : Memory :=
  memory.setHeaderWord .flags2 (memory.headerWord .flags2 ||| mask)

def clearFlag2 (memory : Memory) (mask : UInt16) : Memory :=
  memory.setHeaderWord .flags2 (memory.headerWord .flags2 &&& ~~~mask)

/-- The address of a word of the extension table, if the story has a table that long. -/
def extensionAddress? (memory : Memory) (entry : ExtensionWord) : Except Error (Option Nat) := do
  let table := (memory.headerWord .extensionTable).toNat
  if table = 0 then
    return none
  let length ← memory.readWord table
  return if entry.index ≤ length.toNat then some (table + entry.index * 2) else none

def extension (memory : Memory) (entry : ExtensionWord) : Except Error UInt16 := do
  match ← memory.extensionAddress? entry with
  | some address => memory.readWord address
  | none => return 0

def setExtension (memory : Memory) (entry : ExtensionWord) (value : UInt16) :
    Except Error Memory := do
  match ← memory.extensionAddress? entry with
  | some address => memory.writeWord address value
  | none => return memory

end Memory

end StoryMachine
