/-! The characters of a configuration file, each with the place where it stands. -/

namespace StoryMachine.Yaml

structure Glyph where
  char : Char
  /-- The number of bytes before it. -/
  index : Nat
  line : Nat
  column : Nat
  deriving DecidableEq, Repr

def isBlank (char : Char) : Bool :=
  char = ' ' ∨ char = '\t'

/-- The ends of lines: line feeds, and the separators of lines and of paragraphs. -/
def isBreak (char : Char) : Bool :=
  char ∈ ['\n', '\u2028', '\u2029']

/-- The characters of anchors, directives and the names in tags. -/
def isNameCharacter (char : Char) : Bool :=
  char.isAlphanum ∨ char = '_' ∨ char = '-'

/-- Characters with a meaning inside brackets. -/
def isFlowIndicator (char : Char) : Bool :=
  char ∈ [',', '[', ']', '{', '}']

/-- Control characters and characters that stand for nothing have no place in a file. -/
def isPrintable (char : Char) : Bool :=
  let code := char.toNat
  char ∈ ['\t', '\n', '\r', '\u0085'] ∨ (0x20 ≤ code ∧ code ≤ 0x7e) ∨
    (0xa0 ≤ code ∧ code ≤ 0xfffd) ∨ 0x10000 ≤ code

/-- Put characters in their places. A carriage return, with or without a line feed, and a next-line
character end a line as a line feed does, and become one. -/
def place (index line column : Nat) : List Char → List Glyph
  | [] => []
  | '\r' :: '\n' :: rest => ⟨'\n', index, line, column⟩ :: place (index + 2) (line + 1) 0 rest
  | char :: rest =>
    let next := index + char.utf8Size
    let char := if char = '\r' ∨ char = '\u0085' then '\n' else char
    let after :=
      if isBreak char then place next (line + 1) 0 rest
      else place next line (column + 1) rest
    ⟨char, index, line, column⟩ :: after

def glyphs? (text : String) : Option (List Glyph) :=
  if text.toList.all isPrintable then some (place 0 0 0 text.toList) else none

namespace Glyph

def isBlank (glyph : Glyph) : Bool := Yaml.isBlank glyph.char

def isBreak (glyph : Glyph) : Bool := Yaml.isBreak glyph.char

end Glyph

/-- Does a text end here, or go on with a blank or a new line? -/
def startsGap : List Glyph → Bool
  | [] => true
  | glyph :: _ => glyph.isBlank ∨ glyph.isBreak

/-- Does a line start here with a character three times and a gap? Lines of dashes and of dots
separate documents. -/
def isMark (char : Char) (text : List Glyph) : Bool :=
  text.head?.any (·.column = 0) ∧ (text.take 3).map (·.char) = [char, char, char] ∧
    startsGap (text.drop 3)

def isDocumentMark (text : List Glyph) : Bool :=
  isMark '-' text ∨ isMark '.' text

/-- Pass the blanks and the comment at the end of a line, and the end of the line. There is nothing
else. -/
def endLine? (text : List Glyph) : Option (List Glyph) :=
  let text := text.dropWhile (·.isBlank)
  let text :=
    if text.head?.any (·.char = '#') then text.dropWhile (¬ ·.isBreak) else text
  match text with
  | [] => some []
  | glyph :: rest => if glyph.isBreak then some rest else none

def stringOf (glyphs : List Glyph) : String :=
  String.ofList (glyphs.map (·.char))

end StoryMachine.Yaml
