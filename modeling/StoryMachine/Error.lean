import StoryMachine.Numeral

/-! What can go wrong. Each cause is a constructor with the values it speaks about; its code,
its wording and whether a story can carry on after it are functions of the cause. -/

namespace StoryMachine
open Numeral

/-- The kind of an error, as shown to the player and remembered by the warn-once policy. -/
inductive ErrorCode where
  | configError
  | divisionByZero
  | invalidAddress
  | invalidAttribute
  | invalidColor
  | invalidDictionaryEntryLength
  | invalidInput
  | invalidLocalVariable
  | invalidMenu
  | invalidObject
  | invalidObjectTree
  | invalidOperandCount
  | invalidOperationCode
  | invalidOutput
  | invalidProperty
  | invalidPropertyLength
  | invalidReturn
  | invalidRoutine
  | invalidSoundAction
  | invalidStream
  | invalidThrow
  | invalidWindow
  | invalidWindowProperty
  | invalidWindowSize
  | invalidWindowStyleOperation
  | nestedAbbreviation
  | noFrame
  | parseBufferOverflow
  | propertyNotFound
  | shiftOutOfRange
  | stackUnderflow
  | unsupportedVersion
  deriving DecidableEq, Repr

namespace ErrorCode

def all : List ErrorCode :=
  [configError, divisionByZero, invalidAddress, invalidAttribute, invalidColor,
    invalidDictionaryEntryLength, invalidInput, invalidLocalVariable, invalidMenu, invalidObject,
    invalidObjectTree, invalidOperandCount, invalidOperationCode, invalidOutput, invalidProperty,
    invalidPropertyLength, invalidReturn, invalidRoutine, invalidSoundAction, invalidStream,
    invalidThrow, invalidWindow, invalidWindowProperty, invalidWindowSize,
    invalidWindowStyleOperation, nestedAbbreviation, noFrame, parseBufferOverflow,
    propertyNotFound, shiftOutOfRange, stackUnderflow, unsupportedVersion]

def name : ErrorCode → String
  | configError => "ConfigError"
  | divisionByZero => "DivisionByZero"
  | invalidAddress => "InvalidAddress"
  | invalidAttribute => "InvalidAttribute"
  | invalidColor => "InvalidColor"
  | invalidDictionaryEntryLength => "InvalidDictionaryEntryLength"
  | invalidInput => "InvalidInput"
  | invalidLocalVariable => "InvalidLocalVariable"
  | invalidMenu => "InvalidMenu"
  | invalidObject => "InvalidObject"
  | invalidObjectTree => "InvalidObjectTree"
  | invalidOperandCount => "InvalidOperandCount"
  | invalidOperationCode => "InvalidOperationCode"
  | invalidOutput => "InvalidOutput"
  | invalidProperty => "InvalidProperty"
  | invalidPropertyLength => "InvalidPropertyLength"
  | invalidReturn => "InvalidReturn"
  | invalidRoutine => "InvalidRoutine"
  | invalidSoundAction => "InvalidSoundAction"
  | invalidStream => "InvalidStream"
  | invalidThrow => "InvalidThrow"
  | invalidWindow => "InvalidWindow"
  | invalidWindowProperty => "InvalidWindowProperty"
  | invalidWindowSize => "InvalidWindowSize"
  | invalidWindowStyleOperation => "InvalidWindowStyleOperation"
  | nestedAbbreviation => "NestedAbbreviation"
  | noFrame => "NoFrame"
  | parseBufferOverflow => "ParseBufferOverflow"
  | propertyNotFound => "PropertyNotFound"
  | shiftOutOfRange => "ShiftOutOfRange"
  | stackUnderflow => "StackUnderflow"
  | unsupportedVersion => "UnsupportedVersion"

def ofName? (name : String) : Option ErrorCode :=
  all.find? (·.name == name)

end ErrorCode

inductive LocalAccess where
  | read
  | peek
  | write
  deriving DecidableEq, Repr

def LocalAccess.description : LocalAccess → String
  | .read => "Read from"
  | .peek => "Peek from"
  | .write => "Write to"

inductive AttributeAccess where
  | test
  | set
  | clear
  deriving DecidableEq, Repr

def AttributeAccess.description : AttributeAccess → String
  | .test => "Test"
  | .set => "Set"
  | .clear => "Clear"

inductive PropertyAccess where
  | read
  | write
  deriving DecidableEq, Repr

def PropertyAccess.description : PropertyAccess → String
  | .read => "Read"
  | .write => "Write"

inductive Error where
  | imageTooShort (size : Nat)
  | staticMarkOutside (mark size : Nat)
  | unsupportedVersion (number : Nat)
  | byteBeyondMemory (address last : Nat)
  | wordBeyondMemory (address last : Nat)
  | byteWriteOutside (address mark : Nat)
  | wordWriteOutside (address mark : Nat)
  | snapshotSizeMismatch (given expected : Nat)
  | emptyStackPopped
  | emptyStackPeeked
  | localOutOfRange (access : LocalAccess) (number count : Nat)
  | noFrameToPop
  | noActiveFrame
  | returnWithoutFrame
  | throwOutOfRange (target depth : Nat)
  | tooManyLocals (routine count : Nat)
  | streamTooDeep (limit : Nat)
  | streamWithoutTable
  | invalidStream (stream : Int)
  | restartBeforeStart
  | inputMissing
  | inputWithoutRead
  | interruptWithoutRead
  /-- The time counted in a read no longer fits. It is not reported: the program ends there. -/
  | clockOverflow
  | abbreviationCutOff (bank : Nat)
  | abbreviationNested (bank index : Nat)
  | escapeCutOff
  | dictionaryEntryTooShort (dictionary length wordBytes : Nat)
  | parseBufferFull (buffer capacity words : Nat)
  | invalidObject (object : Nat)
  | objectPastMemory (object address : Nat)
  | notAmongChildren (object parent : Nat)
  | insertionCycle (object destination : Nat)
  | invalidAttribute (access : AttributeAccess) (number object : Nat)
  | invalidProperty (property object : Nat)
  | noDefaultProperty (object property : Nat)
  | propertyMissing (object property : Nat)
  | noNextProperty (property object : Nat)
  | propertyLength (access : PropertyAccess) (property object length : Nat)
  | tooFewOperands (mnemonic : String) (required found : Nat)
  | invalidOperation (version opcode : Nat) (mnemonic : String)
  | divisionByZero
  | moduloByZero
  | shiftOutOfRange (places : Int)
  | invalidColour (colour : Int)
  | invalidWindow (window : Int)
  | invalidWindowSize (height width : Int)
  | invalidWindowStyle (operation : Nat)
  | invalidWindowProperty (property : Nat)
  | invalidSoundAction (action : Nat)
  | reservedMenu (menu : Nat)
  | malformedConfig
  | unknownErrorPolicy (name : String)
  /-- An error raised around the engine, by whoever embeds it. -/
  | external (code : ErrorCode) (message : String) (recoverable : Bool)
  deriving DecidableEq, Repr

namespace Error

def code : Error → ErrorCode
  | imageTooShort _ | staticMarkOutside _ _ | byteBeyondMemory _ _ | wordBeyondMemory _ _
  | byteWriteOutside _ _ | wordWriteOutside _ _ | snapshotSizeMismatch _ _ => .invalidAddress
  | unsupportedVersion _ => .unsupportedVersion
  | emptyStackPopped | emptyStackPeeked => .stackUnderflow
  | localOutOfRange _ _ _ => .invalidLocalVariable
  | noFrameToPop | noActiveFrame | restartBeforeStart => .noFrame
  | returnWithoutFrame | interruptWithoutRead => .invalidReturn
  | throwOutOfRange _ _ => .invalidThrow
  | tooManyLocals _ _ => .invalidRoutine
  | streamTooDeep _ | streamWithoutTable => .invalidOutput
  | invalidStream _ => .invalidStream
  | inputMissing | inputWithoutRead | clockOverflow => .invalidInput
  | abbreviationCutOff _ | escapeCutOff | shiftOutOfRange _ => .shiftOutOfRange
  | abbreviationNested _ _ => .nestedAbbreviation
  | dictionaryEntryTooShort _ _ _ => .invalidDictionaryEntryLength
  | parseBufferFull _ _ _ => .parseBufferOverflow
  | invalidObject _ | objectPastMemory _ _ => .invalidObject
  | notAmongChildren _ _ | insertionCycle _ _ => .invalidObjectTree
  | invalidAttribute _ _ _ => .invalidAttribute
  | invalidProperty _ _ => .invalidProperty
  | noDefaultProperty _ _ | propertyMissing _ _ | noNextProperty _ _ => .propertyNotFound
  | propertyLength _ _ _ _ => .invalidPropertyLength
  | tooFewOperands _ _ _ => .invalidOperandCount
  | invalidOperation _ _ _ => .invalidOperationCode
  | divisionByZero | moduloByZero => .divisionByZero
  | invalidColour _ => .invalidColor
  | invalidWindow _ => .invalidWindow
  | invalidWindowSize _ _ => .invalidWindowSize
  | invalidWindowStyle _ => .invalidWindowStyleOperation
  | invalidWindowProperty _ => .invalidWindowProperty
  | invalidSoundAction _ => .invalidSoundAction
  | reservedMenu _ => .invalidMenu
  | malformedConfig | unknownErrorPolicy _ => .configError
  | external code _ _ => code

/-- A story can carry on after a recoverable error, if the error policy lets it. -/
def isRecoverable : Error → Bool
  | imageTooShort _ | staticMarkOutside _ _ | unsupportedVersion _ | noFrameToPop
  | noActiveFrame | returnWithoutFrame | restartBeforeStart | inputWithoutRead
  | interruptWithoutRead | clockOverflow => false
  | external _ _ recoverable => recoverable
  | _ => true

def message : Error → String
  | imageTooShort size => s!"Story image is too short for a header: {size} bytes"
  | staticMarkOutside mark size =>
    s!"Static memory mark {address mark} outside of memory ({address size})"
  | unsupportedVersion number => s!"Version {number}"
  | byteBeyondMemory place last =>
    s!"Byte address {address place} beyond end of memory ({address last})"
  | wordBeyondMemory place last =>
    s!"Word address {address place} beyond end of memory ({address last})"
  | byteWriteOutside place mark =>
    s!"Byte write to {address place} outside of dynamic memory ({address mark})"
  | wordWriteOutside place mark =>
    s!"Word write to {address place} outside of dynamic memory ({address mark})"
  | snapshotSizeMismatch given expected =>
    s!"Restored memory size doesn't match: {address given} != {address expected}"
  | emptyStackPopped => "Popped an empty stack"
  | emptyStackPeeked => "Peeked an empty stack"
  | localOutOfRange access number count =>
    s!"{access.description} local variable {number} out of range: {count}"
  | noFrameToPop | returnWithoutFrame => "Return with no active routine"
  | noActiveFrame => "No active routine"
  | throwOutOfRange target depth => s!"Throw to frame {target} from depth {depth}"
  | tooManyLocals routine count =>
    s!"Routine at ${hex 5 routine} has {count} local variables"
  | streamTooDeep limit => s!"Stream 3 nested more than {limit} deep"
  | streamWithoutTable => "Stream 3 selected without a table"
  | invalidStream stream => s!"Output stream {stream} is not valid: [-4..4]"
  | restartBeforeStart => "Restart before initialization"
  | inputMissing => "Waiting for input, but none was provided"
  | inputWithoutRead => "Input with no input instruction"
  | interruptWithoutRead => "Return from an input interrupt with no input instruction"
  | clockOverflow => "overflow when adding durations"
  | abbreviationCutOff bank => s!"Abbreviation {bank} at end of string"
  | abbreviationNested bank index => s!"Abbreviation {bank}/{index} inside an abbreviation"
  | escapeCutOff => "ZSCII escape at end of string"
  | dictionaryEntryTooShort dictionary length wordBytes =>
    s!"Dictionary ${hex 4 dictionary} entry length {length} " ++
      s!"is shorter than an encoded word ({wordBytes} bytes)"
  | parseBufferFull buffer capacity words =>
    s!"Parse buffer ${hex 4 buffer} holds {capacity} words, input has {words}"
  | invalidObject object => s!"Invalid object {object}"
  | objectPastMemory object entry =>
    s!"Object {object} entry ${hex 5 entry} is past the end of memory"
  | notAmongChildren object parent =>
    s!"Object {object} not found in the children of its parent {parent}"
  | insertionCycle object destination =>
    s!"Inserting object {object} into {destination} would create a cycle"
  | invalidAttribute access number object =>
    s!"{access.description} of invalid attribute {number} on object {object}"
  | invalidProperty property object => s!"Invalid property {property} on object {object}"
  | noDefaultProperty object property =>
    s!"Object {object} has no property {property} and there is no default"
  | propertyMissing object property => s!"Object {object} does not have property {property}"
  | noNextProperty property object =>
    s!"Next property after {property} on object {object}, which doesn't have it"
  | propertyLength access property object length =>
    s!"{access.description} of property {property} on object {object} " ++
      s!"should have length 1 or 2, was {length}"
  | tooFewOperands mnemonic required found =>
    s!"{mnemonic} requires {required} operands, found {found}"
  | invalidOperation version opcode mnemonic =>
    s!"Invalid instruction for version {version}: {hex 2 opcode} {mnemonic}"
  | divisionByZero => "Divide by zero"
  | moduloByZero => "Modulo by zero"
  | shiftOutOfRange places => s!"Shift by {places} places is outside -15..15"
  | invalidColour colour => s!"Invalid colour {colour}"
  | invalidWindow window => s!"Invalid window {window}"
  | invalidWindowSize height width => s!"Invalid window size {height}x{width}"
  | invalidWindowStyle operation => s!"Invalid window style operation {operation}"
  | invalidWindowProperty property => s!"Invalid window property {property}"
  | invalidSoundAction action => s!"Invalid sound effect action {action}"
  | reservedMenu menu => s!"Menu {menu} is reserved"
  | malformedConfig => "Malformed configuration"
  | unknownErrorPolicy name => s!"Unknown error_handling value '{name}'"
  | external _ message _ => message

def describe (error : Error) : String :=
  let severity := if error.isRecoverable then "Recoverable" else "Fatal"
  s!"{severity} error - [{error.code.name}]: {error.message}"

end Error

end StoryMachine
