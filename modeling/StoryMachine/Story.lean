import StoryMachine.Header
import StoryMachine.Version

/-! A story: memory together with the format it is in. Reading a story can fail; updating it
can fail half way, and then the part already written stays. -/

namespace StoryMachine

structure Story where
  format : Format
  memory : Memory
  deriving DecidableEq

namespace Story

def formatOf (image : Array UInt8) : Except Error Format :=
  if image.size < headerSize then
    .error (.imageTooShort image.size)
  else
    Format.ofNumber (imageByte image HeaderField.version.address).toNat
      (imageWord image HeaderField.routinesOffset.address)
      (imageWord image HeaderField.stringsOffset.address)

def load (image : Array UInt8) : Except Error Story := do
  let format ← formatOf image
  let memory ← Memory.load image format.version.lengthUnit
  return ⟨format, memory⟩

def version (story : Story) : Version :=
  story.format.version

end Story

/-- Changes to a story, in order, up to the first that fails. -/
abbrev Update := EStateM Error Story

namespace Update

def query (read : Story → Except Error α) : Update α := fun story =>
  match read story with
  | .ok value => .ok value story
  | .error error => .error error story

/-- Replace the memory, or fail and change nothing. -/
def modifyMemory (write : Memory → Except Error Memory) : Update Unit := fun story =>
  match write story.memory with
  | .ok memory => .ok () { story with memory }
  | .error error => .error error story

def writeByte (address : Nat) (value : UInt8) : Update Unit :=
  modifyMemory (·.writeByte address value)

def writeWord (address : Nat) (value : UInt16) : Update Unit :=
  modifyMemory (·.writeWord address value)

def writeBytes (address : Nat) (values : List UInt8) : Update Unit :=
  match values with
  | [] => pure ()
  | value :: rest => do
    writeByte address value
    writeBytes (address + 1) rest

def writeWords (address : Nat) (values : List UInt16) : Update Unit :=
  match values with
  | [] => pure ()
  | value :: rest => do
    writeWord address value
    writeWords (address + 2) rest

end Update

end StoryMachine
