import StoryMachine.Yaml.Glyph

/-! The blanks and line ends between the words of a scalar, and how they are folded. -/

namespace StoryMachine.Yaml

/-- What separates two words. Characters stand in reverse order. -/
inductive Gap where
  | blanks (chars : List Char)
  /-- The first line end, unless it was escaped, and those after it. Blanks do not count. -/
  | lines (first : Option Char) (more : List Char)
  deriving DecidableEq, Repr

namespace Gap

def empty : Gap := blanks []

def isEmpty : Gap → Bool
  | blanks chars => chars.isEmpty
  | lines _ _ => false

def hasBreak : Gap → Bool
  | blanks _ => false
  | lines _ _ => true

def push (char : Char) : Gap → Gap
  | blanks chars => if isBreak char then lines (some char) [] else blanks (char :: chars)
  | lines first more => if isBreak char then lines first (char :: more) else lines first more

/-- What a gap stands for: a single line end is a space, and further line ends stay. The separators
of lines and of paragraphs always stay. -/
def folded : Gap → List Char
  | blanks chars => chars
  | lines none more => more
  | lines (some '\n') [] => [' ']
  | lines (some '\n') more => more
  | lines (some first) more => more ++ [first]

end Gap

end StoryMachine.Yaml
