import StoryMachine.Semantics.Arithmetic
import StoryMachine.Semantics.Control
import StoryMachine.Semantics.Objects
import StoryMachine.Semantics.Printing
import StoryMachine.Semantics.Reading
import StoryMachine.Semantics.Saving
import StoryMachine.Semantics.Screen
import StoryMachine.Semantics.Tables
import StoryMachine.Semantics.Variables

/-! What each operation does. -/

namespace StoryMachine.Engine

variable {η : Type} [Host η]

/-- Carry out an operation that the version has. -/
def perform (instruction : Instruction) : Operation → Engine η Continuation
  | .je => branchEqual instruction
  | .jl => branchBinary signedLess instruction
  | .jg => branchBinary signedGreater instruction
  | .decChk => stepAndBranch (· - 1) signedLess instruction
  | .incChk => stepAndBranch (· + 1) signedGreater instruction
  | .jin => branchInside instruction
  | .test => branchBinary hasBits instruction
  | .bitOr => binary (· ||| ·) instruction
  | .bitAnd => binary (· &&& ·) instruction
  | .testAttr => testAttribute instruction
  | .setAttr => changeAttribute Update.setAttribute instruction
  | .clearAttr => changeAttribute Update.clearAttribute instruction
  | .store => storeVariable instruction
  | .insertObj => insertObject instruction
  | .loadw => loadWord instruction
  | .loadb => loadByte instruction
  | .getProp => storeProperty Story.propertyValue instruction
  | .getPropAddr =>
    storeProperty (fun story object number =>
      UInt16.ofNat <$> story.propertyDataAddress object number) instruction
  | .getNextProp =>
    storeProperty (fun story object number =>
      UInt16.ofNat <$> story.nextProperty object number) instruction
  | .add => binary (· + ·) instruction
  | .sub => binary (· - ·) instruction
  | .mul => binary (· * ·) instruction
  | .div => divide .divisionByZero signedDiv instruction
  | .mod => divide .moduloByZero signedMod instruction
  | .call2s | .call2n => callRoutine 2 instruction
  | .setColour => setColour instruction
  | .throwTo => throwValue instruction
  | .jz => branchUnary (· = 0) instruction
  | .getSibling => storeLinkAndBranch .sibling instruction
  | .getChild => storeLinkAndBranch .child instruction
  | .getParent => storeLink .parent instruction
  | .getPropLen => propertyLength instruction
  | .inc => stepVariable (· + 1) instruction
  | .dec => stepVariable (· - 1) instruction
  | .printAddr => printAt (fun _ address => address.toNat) instruction
  | .call1s | .call1n => callPlain instruction
  | .removeObj => removeObject instruction
  | .printObj => printObject instruction
  | .ret => returnOperand instruction
  | .jump => jump instruction
  | .printPaddr => printAt (fun story packed => story.format.stringAddress packed) instruction
  | .load => loadVariable instruction
  | .bitNot | .bitNotVar => unary (~~~ ·) instruction
  | .rtrue => returnValue 1
  | .rfalse => returnValue 0
  | .print => printLiteral instruction
  | .printRet => printAndReturn instruction
  | .nop => proceed instruction
  | .save => save instruction
  | .restore => restore instruction
  | .restart => restart
  | .retPopped => returnPopped
  | .pop => popOne instruction
  | .catchFrame => catchFrame instruction
  | .quit => return .quit
  | .newLine => printNewLine instruction
  | .showStatus => showStatusLine instruction
  | .verify => verify instruction
  | .piracy => branchOn instruction true
  | .callVs | .callVs2 | .callVn | .callVn2 => callRoutine 1 instruction
  | .storew => storeWord instruction
  | .storeb => storeByte instruction
  | .putProp => setProperty instruction
  | .read => readLine instruction
  | .printChar => printOperand (fun code => [code]) instruction
  | .printNum => printOperand numberText instruction
  | .random => randomNumber instruction
  | .push => pushOperand instruction
  | .pull => pull instruction
  | .splitWindow => notifyOperand .splitWindow instruction
  | .setWindow => notifyWindow .setWindow instruction
  | .eraseWindow => notifyWindow .eraseWindow instruction
  | .eraseLine => notifyOperand .eraseLine instruction
  | .setCursor => setCursor instruction
  | .getCursor => getCursor instruction
  | .setTextStyle => notifyOperand .setTextStyle instruction
  | .bufferMode => notifyOperand .bufferMode instruction
  | .outputStream => selectOutput instruction
  | .inputStream => selectInput instruction
  | .soundEffect => soundEffect instruction
  | .readChar => readCharacter instruction
  | .scanTable => scanTable instruction
  | .tokenise => tokeniseBuffer instruction
  | .encodeText => encodeText instruction
  | .copyTable => copyTable instruction
  | .printTable => printTable instruction
  | .checkArgCount => checkArgumentCount instruction
  | .saveExt => saveExtended instruction
  | .restoreExt => restoreExtended instruction
  | .logShift => shift logicalShift instruction
  | .artShift => shift arithmeticShift instruction
  | .setFont => setFont instruction
  | .drawPicture => notifyPicture .drawPicture instruction
  | .pictureData => pictureData instruction
  | .erasePicture => notifyPicture .erasePicture instruction
  | .setMargins => setMargins instruction
  | .saveUndo => takeUndo instruction
  | .restoreUndo => undo instruction
  | .printUnicode => printOperand unicodeText instruction
  | .checkUnicode => checkUnicode instruction
  | .setTrueColour => setTrueColour instruction
  | .moveWindow => moveWindow instruction
  | .windowSize => windowSize instruction
  | .windowStyle => windowStyle instruction
  | .getWindProp => getWindowProperty instruction
  | .scrollWindow => scrollWindow instruction
  | .popStack => popStack instruction
  | .readMouse => readMouse instruction
  | .mouseWindow => notifyWindow .mouseWindow instruction
  | .pushStack => pushStack instruction
  | .putWindProp => putWindowProperty instruction
  | .printForm => printForm instruction
  | .makeMenu => makeMenu instruction
  | .pictureTable => pictureTable instruction
  | .bufferScreen => bufferScreen instruction

def dispatch (instruction : Instruction) : Engine η Continuation := do
  let opcode := instruction.opcode
  let invalid := Error.invalidOperation opcode.version.number opcode.byte.toNat opcode.mnemonic
  match opcode.operation? with
  | none => throw invalid
  | some operation =>
    if operation.isAvailable (← version) then perform instruction operation else throw invalid

end StoryMachine.Engine
