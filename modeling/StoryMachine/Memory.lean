import StoryMachine.Error

/-! The memory of a story: the bytes of its image, of which those below the static mark can be
written. The first 64 bytes are the header, and they are always below the mark. -/

namespace StoryMachine

/-- The word whose high byte comes first. -/
def word (high low : UInt8) : UInt16 :=
  UInt16.ofNat (256 * high.toNat + low.toNat)

def highByte (value : UInt16) : UInt8 :=
  UInt8.ofNat (value.toNat / 256)

def lowByte (value : UInt16) : UInt8 :=
  UInt8.ofNat value.toNat

/-- The byte at an address of an image, and 0 past its end. -/
def imageByte (image : Array UInt8) (address : Nat) : UInt8 :=
  image.getD address 0

def imageWord (image : Array UInt8) (address : Nat) : UInt16 :=
  word (imageByte image address) (imageByte image (address + 1))

abbrev headerSize : Nat := 0x40

structure Memory where
  bytes : Array UInt8
  /-- Writes are confined to the addresses below this one. -/
  staticMark : Nat
  /-- The length of the story in its image, which the checksum covers. -/
  fileLength : Nat
  /-- The bytes below the static mark as they were when the story was loaded. -/
  pristine : Array UInt8
  header_le_mark : headerSize ≤ staticMark
  mark_le_size : staticMark ≤ bytes.size
  pristine_size : pristine.size = staticMark
  deriving DecidableEq

namespace Memory

/-- Take an image as memory. The header gives the static mark and, in units of `lengthUnit`
bytes, the length of the story. -/
def load (image : Array UInt8) (lengthUnit : Nat) : Except Error Memory :=
  if headerSize ≤ image.size then
    let mark := (imageWord image 0x0e).toNat
    if inside : headerSize ≤ mark ∧ mark ≤ image.size then
      .ok {
        bytes := image
        staticMark := mark
        fileLength := min ((imageWord image 0x1a).toNat * lengthUnit) image.size
        pristine := image.extract 0 mark
        header_le_mark := inside.1
        mark_le_size := inside.2
        pristine_size := by simp [Nat.min_eq_left inside.2] }
    else
      .error (.staticMarkOutside mark image.size)
  else
    .error (.imageTooShort image.size)

def size (memory : Memory) : Nat :=
  memory.bytes.size

/-- The byte at an address, and 0 past the end of memory. -/
def byteAt (memory : Memory) (address : Nat) : UInt8 :=
  imageByte memory.bytes address

def wordAt (memory : Memory) (address : Nat) : UInt16 :=
  imageWord memory.bytes address

def readByte (memory : Memory) (address : Nat) : Except Error UInt8 :=
  if address < memory.size then
    .ok (memory.byteAt address)
  else
    .error (.byteBeyondMemory address (memory.size - 1))

def readWord (memory : Memory) (address : Nat) : Except Error UInt16 :=
  if address + 1 < memory.size then
    .ok (memory.wordAt address)
  else
    .error (.wordBeyondMemory address (memory.size - 1))

/-- Bytes read one after the other; the first that is missing is the error. -/
def readBytes (memory : Memory) (address count : Nat) : Except Error (List UInt8) :=
  (List.range' address count).mapM memory.readByte

def readWords (memory : Memory) (address count : Nat) : Except Error (List UInt16) :=
  (List.range' address count 2).mapM memory.readWord

/-- Change one byte, whatever its address. -/
def put (memory : Memory) (address : Nat) (value : UInt8) : Memory :=
  { memory with
    bytes := memory.bytes.setIfInBounds address value
    mark_le_size := by simpa using memory.mark_le_size }

def putWord (memory : Memory) (address : Nat) (value : UInt16) : Memory :=
  (memory.put address (highByte value)).put (address + 1) (lowByte value)

def writeByte (memory : Memory) (address : Nat) (value : UInt8) : Except Error Memory :=
  if address < memory.staticMark then
    .ok (memory.put address value)
  else
    .error (.byteWriteOutside address memory.staticMark)

def writeWord (memory : Memory) (address : Nat) (value : UInt16) : Except Error Memory :=
  if address + 1 < memory.staticMark then
    .ok (memory.putWord address value)
  else
    .error (.wordWriteOutside address memory.staticMark)

/-- At most `length` bytes from `start`: fewer where memory ends. -/
def slice (memory : Memory) (start length : Nat) : Array UInt8 :=
  memory.bytes.extract start (start + length)

/-- The image with the dynamic part as it was loaded and the static part as it is. -/
def loadedImage (memory : Memory) : Array UInt8 :=
  memory.pristine ++ memory.bytes.extract memory.staticMark memory.size

/-- The sum modulo 2^16 of the story's bytes after the header, as they were loaded. -/
def checksum (memory : Memory) : UInt16 :=
  (memory.loadedImage.extract headerSize memory.fileLength).foldl
    (fun sum byte => sum + byte.toUInt16) 0

def reset (memory : Memory) : Memory :=
  { memory with
    bytes := memory.loadedImage
    mark_le_size := by
      have := memory.pristine_size
      simp [loadedImage]
      omega }

def replace (memory : Memory) (image : Array UInt8) : Except Error Memory :=
  if same : image.size = memory.size then
    .ok { memory with bytes := image, mark_le_size := same ▸ memory.mark_le_size }
  else
    .error (.snapshotSizeMismatch image.size memory.size)

def describe (memory : Memory) : String :=
  s!"Memory: {memory.size} bytes, static @ {Numeral.address memory.staticMark}"

end Memory

end StoryMachine
