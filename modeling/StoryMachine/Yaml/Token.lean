import StoryMachine.Yaml.Tag

/-! The tokens of a configuration file. -/

namespace StoryMachine.Yaml

inductive Token where
  | versionDirective (major minor : Nat)
  | tagDirective (handle : String) (start : List UInt8)
  | documentStart
  | documentEnd
  | blockSequenceStart
  | blockMappingStart
  | blockEnd
  | flowSequenceStart
  | flowSequenceEnd
  | flowMappingStart
  | flowMappingEnd
  /-- The dash before an item of a block. -/
  | blockEntry
  /-- The comma inside brackets. -/
  | flowEntry
  | key
  | value
  | reference (anchor : String)
  | anchor (name : String)
  | tag (name : TagName)
  | scalar (isPlain : Bool) (text : String)
  deriving DecidableEq, Repr

/-! ### Directives and anchors -/

/-- A number of up to nine digits. -/
def versionNumber? (text : List Glyph) : Option (Nat × List Glyph) :=
  let (digits, rest) := text.span (·.char.isDigit)
  if digits.isEmpty ∨ 9 < digits.length then none
  else some (Digits.decimal (digits.map (·.char)), rest)

def versionDirective? (text : List Glyph) : Option (Token × List Glyph) := do
  let (major, rest) ← versionNumber? (text.dropWhile (·.isBlank))
  if rest.head?.any (·.char = '.') then
    let (minor, rest) ← versionNumber? (rest.drop 1)
    return (.versionDirective major minor, rest)
  else none

def tagDirective? (text : List Glyph) : Option (Token × List Glyph) := do
  let (handle, rest) ← handle? (text.dropWhile (·.isBlank))
  if (isWholeHandle handle ∨ handle = "!") ∧ rest.head?.any (·.isBlank) then
    let (start, rest) ← someTagBytes? true (rest.dropWhile (·.isBlank))
    if startsGap rest then some (.tagDirective handle start, rest) else none
  else none

/-- The directive after a percent sign, and the lines below it. -/
def directive? (text : List Glyph) : Option (Token × List Glyph) := do
  let (name, rest) := text.span fun glyph => isNameCharacter glyph.char
  let (token, rest) ←
    if startsGap rest then
      match stringOf name with
      | "YAML" => versionDirective? rest
      | "TAG" => tagDirective? rest
      | _ => none
    else none
  return (token, ← endLine? rest)

/-- The name of an anchor, and what follows it: a gap or a character that no name starts with. -/
def anchorName? (text : List Glyph) : Option (String × List Glyph) :=
  let (name, rest) := text.span fun glyph => isNameCharacter glyph.char
  let ended := startsGap rest ∨ rest.head?.any fun glyph =>
    glyph.char ∈ ['?', ':', ',', ']', '}', '%', '@', Char.ofNat 96]
  if ¬ name.isEmpty ∧ ended then some (stringOf name, rest) else none

end StoryMachine.Yaml
