import StoryMachine.Version

/-! The operations of the machine: which opcode numbers mean them, what they are called, in
which versions they exist, and which of them store a result or branch. -/

namespace StoryMachine

/-- How many operands an opcode announces. -/
inductive Arity where
  | zero
  | one
  | two
  | any
  deriving DecidableEq, Repr

inductive Operation where
  -- two operands
  | je
  | jl
  | jg
  | decChk
  | incChk
  | jin
  | test
  | bitOr
  | bitAnd
  | testAttr
  | setAttr
  | clearAttr
  | store
  | insertObj
  | loadw
  | loadb
  | getProp
  | getPropAddr
  | getNextProp
  | add
  | sub
  | mul
  | div
  | mod
  | call2s
  | call2n
  | setColour
  | throwTo
  -- one operand
  | jz
  | getSibling
  | getChild
  | getParent
  | getPropLen
  | inc
  | dec
  | printAddr
  | call1s
  | removeObj
  | printObj
  | ret
  | jump
  | printPaddr
  | load
  | bitNot
  | call1n
  -- no operands
  | rtrue
  | rfalse
  | print
  | printRet
  | nop
  | save
  | restore
  | restart
  | retPopped
  | pop
  | catchFrame
  | quit
  | newLine
  | showStatus
  | verify
  | piracy
  -- any number of operands
  | callVs
  | storew
  | storeb
  | putProp
  | read
  | printChar
  | printNum
  | random
  | push
  | pull
  | splitWindow
  | setWindow
  | callVs2
  | eraseWindow
  | eraseLine
  | setCursor
  | getCursor
  | setTextStyle
  | bufferMode
  | outputStream
  | inputStream
  | soundEffect
  | readChar
  | scanTable
  | bitNotVar
  | callVn
  | callVn2
  | tokenise
  | encodeText
  | copyTable
  | printTable
  | checkArgCount
  -- extended
  | saveExt
  | restoreExt
  | logShift
  | artShift
  | setFont
  | drawPicture
  | pictureData
  | erasePicture
  | setMargins
  | saveUndo
  | restoreUndo
  | printUnicode
  | checkUnicode
  | setTrueColour
  | moveWindow
  | windowSize
  | windowStyle
  | getWindProp
  | scrollWindow
  | popStack
  | readMouse
  | mouseWindow
  | pushStack
  | putWindProp
  | printForm
  | makeMenu
  | pictureTable
  | bufferScreen
  deriving DecidableEq, Repr

namespace Operation

private def twoOperands? : Nat → Option Operation
  | 0x01 => some je
  | 0x02 => some jl
  | 0x03 => some jg
  | 0x04 => some decChk
  | 0x05 => some incChk
  | 0x06 => some jin
  | 0x07 => some test
  | 0x08 => some bitOr
  | 0x09 => some bitAnd
  | 0x0a => some testAttr
  | 0x0b => some setAttr
  | 0x0c => some clearAttr
  | 0x0d => some store
  | 0x0e => some insertObj
  | 0x0f => some loadw
  | 0x10 => some loadb
  | 0x11 => some getProp
  | 0x12 => some getPropAddr
  | 0x13 => some getNextProp
  | 0x14 => some add
  | 0x15 => some sub
  | 0x16 => some mul
  | 0x17 => some div
  | 0x18 => some mod
  | 0x19 => some call2s
  | 0x1a => some call2n
  | 0x1b => some setColour
  | 0x1c => some throwTo
  | _ => none

private def oneOperand? (version : Version) : Nat → Option Operation
  | 0x0 => some jz
  | 0x1 => some getSibling
  | 0x2 => some getChild
  | 0x3 => some getParent
  | 0x4 => some getPropLen
  | 0x5 => some inc
  | 0x6 => some dec
  | 0x7 => some printAddr
  | 0x8 => some call1s
  | 0x9 => some removeObj
  | 0xa => some printObj
  | 0xb => some ret
  | 0xc => some jump
  | 0xd => some printPaddr
  | 0xe => some load
  | 0xf => some (if version < .v5 then bitNot else call1n)
  | _ => none

private def noOperands? (version : Version) : Nat → Option Operation
  | 0x0 => some rtrue
  | 0x1 => some rfalse
  | 0x2 => some print
  | 0x3 => some printRet
  | 0x4 => some nop
  | 0x5 => some save
  | 0x6 => some restore
  | 0x7 => some restart
  | 0x8 => some retPopped
  | 0x9 => some (if version < .v5 then pop else catchFrame)
  | 0xa => some quit
  | 0xb => some newLine
  | 0xc => some showStatus
  | 0xd => some verify
  | 0xf => some piracy
  | _ => none

private def anyOperands? : Nat → Option Operation
  | 0x00 => some callVs
  | 0x01 => some storew
  | 0x02 => some storeb
  | 0x03 => some putProp
  | 0x04 => some read
  | 0x05 => some printChar
  | 0x06 => some printNum
  | 0x07 => some random
  | 0x08 => some push
  | 0x09 => some pull
  | 0x0a => some splitWindow
  | 0x0b => some setWindow
  | 0x0c => some callVs2
  | 0x0d => some eraseWindow
  | 0x0e => some eraseLine
  | 0x0f => some setCursor
  | 0x10 => some getCursor
  | 0x11 => some setTextStyle
  | 0x12 => some bufferMode
  | 0x13 => some outputStream
  | 0x14 => some inputStream
  | 0x15 => some soundEffect
  | 0x16 => some readChar
  | 0x17 => some scanTable
  | 0x18 => some bitNotVar
  | 0x19 => some callVn
  | 0x1a => some callVn2
  | 0x1b => some tokenise
  | 0x1c => some encodeText
  | 0x1d => some copyTable
  | 0x1e => some printTable
  | 0x1f => some checkArgCount
  | _ => none

def ofExtended? : Nat → Option Operation
  | 0x00 => some saveExt
  | 0x01 => some restoreExt
  | 0x02 => some logShift
  | 0x03 => some artShift
  | 0x04 => some setFont
  | 0x05 => some drawPicture
  | 0x06 => some pictureData
  | 0x07 => some erasePicture
  | 0x08 => some setMargins
  | 0x09 => some saveUndo
  | 0x0a => some restoreUndo
  | 0x0b => some printUnicode
  | 0x0c => some checkUnicode
  | 0x0d => some setTrueColour
  | 0x10 => some moveWindow
  | 0x11 => some windowSize
  | 0x12 => some windowStyle
  | 0x13 => some getWindProp
  | 0x14 => some scrollWindow
  | 0x15 => some popStack
  | 0x16 => some readMouse
  | 0x17 => some mouseWindow
  | 0x18 => some pushStack
  | 0x19 => some putWindProp
  | 0x1a => some printForm
  | 0x1b => some makeMenu
  | 0x1c => some pictureTable
  | 0x1d => some bufferScreen
  | _ => none

/-- The operation of an opcode number, as the version reads it. -/
def ofNumber? (version : Version) : Arity → Nat → Option Operation
  | .zero, number => noOperands? version number
  | .one, number => oneOperand? version number
  | .two, number => twoOperands? number
  | .any, number => anyOperands? number

def mnemonic (version : Version) : Operation → String
  | je => "JE"
  | jl => "JL"
  | jg => "JG"
  | decChk => "DEC_CHK"
  | incChk => "INC_CHK"
  | jin => "JIN"
  | test => "TEST"
  | bitOr => "OR"
  | bitAnd => "AND"
  | testAttr => "TEST_ATTR"
  | setAttr => "SET_ATTR"
  | clearAttr => "CLEAR_ATTR"
  | store => "STORE"
  | insertObj => "INSERT_OBJ"
  | loadw => "LOADW"
  | loadb => "LOADB"
  | getProp => "GET_PROP"
  | getPropAddr => "GET_PROP_ADDR"
  | getNextProp => "GET_NEXT_PROP"
  | add => "ADD"
  | sub => "SUB"
  | mul => "MUL"
  | div => "DIV"
  | mod => "MOD"
  | call2s => "CALL_2S"
  | call2n => "CALL_2N"
  | setColour => "SET_COLOUR"
  | throwTo => "THROW"
  | jz => "JZ"
  | getSibling => "GET_SIBLING"
  | getChild => "GET_CHILD"
  | getParent => "GET_PARENT"
  | getPropLen => "GET_PROP_LEN"
  | inc => "INC"
  | dec => "DEC"
  | printAddr => "PRINT_ADDR"
  | call1s => "CALL_1S"
  | removeObj => "REMOVE_OBJ"
  | printObj => "PRINT_OBJ"
  | ret => "RET"
  | jump => "JUMP"
  | printPaddr => "PRINT_PADDR"
  | load => "LOAD"
  | bitNot | bitNotVar => "NOT"
  | call1n => "CALL_1N"
  | rtrue => "RTRUE"
  | rfalse => "RFALSE"
  | print => "PRINT"
  | printRet => "PRINT_RET"
  | nop => "NOP"
  | save | saveExt => "SAVE"
  | restore | restoreExt => "RESTORE"
  | restart => "RESTART"
  | retPopped => "RET_POPPED"
  | pop => "POP"
  | catchFrame => "CATCH"
  | quit => "QUIT"
  | newLine => "NEW_LINE"
  | showStatus => "SHOW_STATUS"
  | verify => "VERIFY"
  | piracy => "PIRACY"
  | callVs => if version < .v4 then "CALL" else "CALL_VS"
  | storew => "STOREW"
  | storeb => "STOREB"
  | putProp => "PUT_PROP"
  | read => if version < .v5 then "SREAD" else "AREAD"
  | printChar => "PRINT_CHAR"
  | printNum => "PRINT_NUM"
  | random => "RANDOM"
  | push => "PUSH"
  | pull => "PULL"
  | splitWindow => "SPLIT_WINDOW"
  | setWindow => "SET_WINDOW"
  | callVs2 => "CALL_VS2"
  | eraseWindow => "ERASE_WINDOW"
  | eraseLine => "ERASE_LINE"
  | setCursor => "SET_CURSOR"
  | getCursor => "GET_CURSOR"
  | setTextStyle => "SET_TEXT_STYLE"
  | bufferMode => "BUFFER_MODE"
  | outputStream => "OUTPUT_STREAM"
  | inputStream => "INPUT_STREAM"
  | soundEffect => "SOUND_EFFECT"
  | readChar => "READ_CHAR"
  | scanTable => "SCAN_TABLE"
  | callVn => "CALL_VN"
  | callVn2 => "CALL_VN2"
  | tokenise => "TOKENISE"
  | encodeText => "ENCODE_TEXT"
  | copyTable => "COPY_TABLE"
  | printTable => "PRINT_TABLE"
  | checkArgCount => "CHECK_ARG_COUNT"
  | logShift => "LOG_SHIFT"
  | artShift => "ART_SHIFT"
  | setFont => "SET_FONT"
  | drawPicture => "DRAW_PICTURE"
  | pictureData => "PICTURE_DATA"
  | erasePicture => "ERASE_PICTURE"
  | setMargins => "SET_MARGINS"
  | saveUndo => "SAVE_UNDO"
  | restoreUndo => "RESTORE_UNDO"
  | printUnicode => "PRINT_UNICODE"
  | checkUnicode => "CHECK_UNICODE"
  | setTrueColour => "SET_TRUE_COLOUR"
  | moveWindow => "MOVE_WINDOW"
  | windowSize => "WINDOW_SIZE"
  | windowStyle => "WINDOW_STYLE"
  | getWindProp => "GET_WIND_PROP"
  | scrollWindow => "SCROLL_WINDOW"
  | popStack => "POP_STACK"
  | readMouse => "READ_MOUSE"
  | mouseWindow => "MOUSE_WINDOW"
  | pushStack => "PUSH_STACK"
  | putWindProp => "PUT_WIND_PROP"
  | printForm => "PRINT_FORM"
  | makeMenu => "MAKE_MENU"
  | pictureTable => "PICTURE_TABLE"
  | bufferScreen => "BUFFER_SCREEN"

def isAvailable (version : Version) : Operation → Bool
  | save | restore => version < .v5
  | verify | splitWindow | setWindow | outputStream | inputStream | soundEffect => .v3 ≤ version
  | call1s | call2s | callVs2 | eraseWindow | eraseLine | setCursor | getCursor | setTextStyle
  | bufferMode | readChar | scanTable => .v4 ≤ version
  | piracy | call2n | setColour | throwTo | bitNotVar | callVn | callVn2 | tokenise | encodeText
  | copyTable | printTable | checkArgCount => .v5 ≤ version
  | drawPicture | pictureData | erasePicture | setMargins | moveWindow | windowSize | windowStyle
  | getWindProp | scrollWindow | popStack | readMouse | mouseWindow | pushStack | putWindProp
  | printForm | makeMenu | pictureTable | bufferScreen => version = .v6
  | _ => true

def stores (version : Version) : Operation → Bool
  | bitOr | bitAnd | loadw | loadb | getProp | getPropAddr | getNextProp | add | sub | mul | div
  | mod | call2s => true
  | getSibling | getChild | getParent | getPropLen | call1s | load | bitNot => true
  | save | restore => version = .v4
  | catchFrame => true
  | callVs | random | callVs2 | readChar | scanTable | bitNotVar => true
  | read => .v5 ≤ version
  | pull => version = .v6
  | saveExt | restoreExt | logShift | artShift | setFont | saveUndo | restoreUndo | checkUnicode
  | getWindProp | bufferScreen => true
  | _ => false

def branches (version : Version) : Operation → Bool
  | je | jl | jg | decChk | incChk | jin | test | testAttr => true
  | jz | getSibling | getChild => true
  | save | restore => version < .v4
  | verify | piracy | scanTable | checkArgCount => true
  | pictureData | pushStack | makeMenu => true
  | _ => false

def hasLiteral : Operation → Bool
  | print | printRet => true
  | _ => false

end Operation

end StoryMachine
