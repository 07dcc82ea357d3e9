import StoryMachine.Text.Zscii

/-! Splitting a line into words. Spaces divide words, and so do separators, which are words
themselves. -/

namespace StoryMachine

/-- A word of a line, in lower case, with the position where it starts. -/
structure Word where
  start : Nat
  letters : List Zscii
  deriving DecidableEq, Repr

namespace Word

/-- The word that ends before `position`, if any letters have been collected. -/
def close (position : Nat) (letters : List Zscii) : List Word :=
  if letters = [] then [] else [⟨position - letters.length, letters⟩]

/-- Split the rest of a line from `position` on, with the letters of the word under way. -/
def splitFrom (separators : List Zscii) (position : Nat) (letters : List Zscii) :
    List Zscii → List Word
  | [] => close position letters
  | code :: rest =>
    let code := code.toLower
    if code = Zscii.space then
      close position letters ++ splitFrom separators (position + 1) [] rest
    else if code ∈ separators then
      close position letters ++ ⟨position, [code]⟩ :: splitFrom separators (position + 1) [] rest
    else
      splitFrom separators (position + 1) (letters ++ [code]) rest

def split (text separators : List Zscii) : List Word :=
  splitFrom separators 0 [] text

end Word

end StoryMachine
