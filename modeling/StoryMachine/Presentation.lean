import StoryMachine.Error
import StoryMachine.Text.Zscii

/-! The screen, the speaker and the files that a story writes to. The machine gives notices, to
which there is no answer, and asks a few questions. -/

namespace StoryMachine

/-- What the machine tells the presentation. Window -3 is the current one. -/
inductive Notice where
  | print (text : List Zscii)
  | newLine
  | showStatus (left right : List Zscii)
  | splitWindow (lines : UInt16)
  | setWindow (window : Int16)
  | eraseWindow (window : Int16)
  | eraseLine (value : UInt16)
  | setCursor (row : Int16) (column : UInt16) (window : Int16)
  | setTextStyle (style : UInt16)
  | bufferMode (mode : UInt16)
  | setColour (foreground background window : Int16)
  | setTrueColour (foreground background window : Int16)
  | outputStream (stream : Int16)
  | transcript (text : List Zscii)
  | commandScript (text : List Zscii)
  | soundEffect (number effect volume : UInt16) (routine : Nat)
  | beep (number : UInt16)
  | drawPicture (picture row column : UInt16)
  | erasePicture (picture row column : UInt16)
  | pictureTable (pictures : List UInt16)
  | setMargins (left right : UInt16) (window : Int16)
  | moveWindow (window : Int16) (row column : UInt16)
  | windowSize (window : Int16) (height width : UInt16)
  | windowStyle (window : Int16) (flags operation : UInt16)
  | putWindowProperty (window : Int16) (property value : UInt16)
  | scrollWindow (window pixels : Int16)
  | mouseWindow (window : Int16)
  | reset
  | error (code : ErrorCode) (message : String)
  deriving DecidableEq, Repr

structure MouseState where
  row : UInt16
  column : UInt16
  buttons : UInt16
  menu : UInt16
  deriving DecidableEq, Repr

class Presentation (η : Type) where
  notify : Notice → η → η
  /-- The row and column of the cursor. -/
  cursor : η → (UInt16 × UInt16) × η
  /-- Change the font; the answer is the previous one, or 0 if the font is not there. -/
  setFont : UInt16 → η → UInt16 × η
  /-- The height and width of a picture, if there is one. -/
  pictureData : UInt16 → η → Option (UInt16 × UInt16) × η
  windowProperty : (window : Int16) → (property : UInt16) → η → UInt16 × η
  readMouse : η → MouseState × η
  /-- Put up a menu with these items; the answer tells whether that worked. -/
  makeMenu : UInt16 → List (List Zscii) → η → Bool × η

/-- A presentation that can only print: new lines are printed, other notices are dropped, there
is one font, and no pictures, mouse or menus. -/
@[reducible] def Presentation.ofPrint (print : List Zscii → η → η) : Presentation η where
  notify
    | .print text => print text
    | .newLine => print [Zscii.newLine]
    | _ => id
  cursor host := ((1, 1), host)
  setFont font host := (if font ≤ 1 then 1 else 0, host)
  pictureData _ host := (none, host)
  windowProperty _ _ host := (0, host)
  readMouse host := (⟨0, 0, 0, 0⟩, host)
  makeMenu _ _ host := (false, host)

end StoryMachine
