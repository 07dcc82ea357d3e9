import StoryMachine.Yaml.Digits
import StoryMachine.Yaml.Gap

/-! Scalars in single and in double quotes. -/

namespace StoryMachine.Yaml

/-- The characters that are written with a backslash and one letter. -/
def escapes : List (Char × Nat) :=
  [('0', 0), ('a', 7), ('b', 8), ('t', 9), ('\t', 9), ('n', 10), ('v', 11), ('f', 12), ('r', 13),
    ('e', 27), (' ', 32), ('\"', 34), ('/', 47), ('\\', 92), ('N', 0x85), ('_', 0xa0),
    ('L', 0x2028), ('P', 0x2029)]

/-- How many hexadecimal digits follow a letter that announces a character by its number. -/
def codeLength (letter : Char) : Option Nat :=
  [('x', 2), ('u', 4), ('U', 8)].lookup letter

/-- The character that a letter after a backslash stands for, and how many characters after the
letter belong to it. -/
def escaped? (letter : Char) (after : List Glyph) : Option (Char × Nat) :=
  match codeLength letter with
  | none => (escapes.lookup letter).map fun code => (Char.ofNat code, 0)
  | some length => do
    let digits := (after.take length).map (·.char)
    let code ← Digits.natural? 16 digits
    if digits.length = length ∧ code.isValidChar then some (Char.ofNat code, length) else none

/-- The rest of a text in single quotes, and what follows it. A quote in it is written twice. -/
def singleQuoted? (gap : Gap) (read : List Char) : List Glyph → Option (String × List Glyph)
  | [] => none
  | glyph :: rest =>
    if glyph.isBlank ∨ glyph.isBreak then singleQuoted? (gap.push glyph.char) read rest
    else if isDocumentMark (glyph :: rest) then none
    else
      let read := gap.folded ++ read
      if glyph.char ≠ '\'' then singleQuoted? .empty (glyph.char :: read) rest
      else
        match rest with
        | next :: after =>
          if next.char = '\'' then singleQuoted? .empty ('\'' :: read) after
          else some (String.ofList read.reverse, rest)
        | [] => some (String.ofList read.reverse, [])

/-- The rest of a text in double quotes, and what follows it. A backslash before the end of a line
joins it to the next. -/
def doubleQuoted? (gap : Gap) (read : List Char) : List Glyph → Option (String × List Glyph)
  | [] => none
  | glyph :: rest =>
    if glyph.isBlank ∨ glyph.isBreak then doubleQuoted? (gap.push glyph.char) read rest
    else if isDocumentMark (glyph :: rest) then none
    else
      let read := gap.folded ++ read
      if glyph.char = '\"' then some (String.ofList read.reverse, rest)
      else if glyph.char ≠ '\\' then doubleQuoted? .empty (glyph.char :: read) rest
      else
        match rest with
        | [] => none
        | letter :: after =>
          if letter.isBreak then doubleQuoted? (.lines none []) read after
          else
            match escaped? letter.char after with
            | none => none
            | some (char, length) => doubleQuoted? .empty (char :: read) (after.drop length)
  termination_by text => text.length
  decreasing_by all_goals simp; try omega

end StoryMachine.Yaml
