import StoryMachine.Yaml.Digits
import StoryMachine.Yaml.Glyph

/-! Scalars in blocks of indented lines, which keep their line ends or fold them. -/

namespace StoryMachine.Yaml

/-- What becomes of the line ends after the last line of a block. -/
inductive Chomping where
  /-- The first one stays. -/
  | clip
  /-- None stays. -/
  | strip
  /-- All stay. -/
  | keep
  deriving DecidableEq, Repr

structure BlockHeader where
  chomping : Chomping := .clip
  /-- How far the lines are indented beyond the block around them, if it is given. -/
  increment : Option Nat := none
  deriving DecidableEq, Repr

namespace BlockHeader

def chomping? (glyph : Glyph) : Option Chomping :=
  [('+', Chomping.keep), ('-', Chomping.strip)].lookup glyph.char

/-- An indentation is a digit from 1 to 9. -/
def increment? (glyph : Glyph) : Option Nat :=
  (Digits.value? 10 glyph.char).filter (· ≠ 0)

/-- The two signs after the mark of a block, in either order, and what follows them. -/
def read : List Glyph → BlockHeader × List Glyph
  | [] => ({}, [])
  | first :: rest =>
    match chomping? first, increment? first with
    | some chomping, _ =>
      match rest.head?.bind increment? with
      | some increment => ({ chomping, increment }, rest.drop 1)
      | none => ({ chomping }, rest)
    | none, some increment =>
      match rest.head?.bind chomping? with
      | some chomping => ({ chomping, increment }, rest.drop 1)
      | none => ({ increment }, rest)
    | none, none => ({}, first :: rest)

end BlockHeader

/-- The widest indentation up to the first line that is not empty. Tabs do not indent. -/
def blockIndent? (widest : Nat) : List Glyph → Option Nat
  | [] => some widest
  | glyph :: rest =>
    if glyph.char = '\t' then none
    else if glyph.char = ' ' then blockIndent? (max widest (glyph.column + 1)) rest
    else if glyph.isBreak then blockIndent? widest rest
    else some widest

/-- The lines of a block as far as they are read. Characters stand in reverse order. -/
structure BlockText where
  read : List Char := []
  /-- The end of the last line. -/
  lineEnd : Option Char := none
  /-- The ends of the empty lines after it. -/
  emptyLines : List Char := []
  /-- Does the last line start with a blank? -/
  startsBlank : Bool := false
  deriving DecidableEq, Repr

namespace BlockText

/-- Start a line with a character. When lines are folded, the end of a line is a space, or nothing
if empty lines follow; not so beside a line that starts with a blank. -/
def startLine (folded : Bool) (char : Char) (block : BlockText) : BlockText :=
  let folds := folded ∧ block.lineEnd = some '\n' ∧ ¬ block.startsBlank ∧ ¬ isBlank char
  let joint :=
    if folds then if block.emptyLines.isEmpty then [' '] else [] else block.lineEnd.toList
  { read := char :: (block.emptyLines ++ joint ++ block.read), startsBlank := isBlank char }

def finish (chomping : Chomping) (block : BlockText) : String :=
  let tail :=
    match chomping with
    | .strip => []
    | .clip => block.lineEnd.toList
    | .keep => block.emptyLines ++ block.lineEnd.toList
  String.ofList (tail ++ block.read).reverse

end BlockText

/-- The lines that are indented by `indent` columns, and what follows them. `inLine` tells whether
the indentation of a line has been passed. -/
def blockLines? (folded : Bool) (indent : Nat) (inLine : Bool) (block : BlockText) :
    List Glyph → Option (BlockText × List Glyph)
  | [] => some (block, [])
  | glyph :: rest =>
    if inLine then
      if glyph.isBreak then
        blockLines? folded indent false { block with lineEnd := some glyph.char } rest
      else
        blockLines? folded indent true { block with read := glyph.char :: block.read } rest
    else if glyph.isBreak then
      let emptyLines := glyph.char :: block.emptyLines
      blockLines? folded indent false { block with emptyLines } rest
    else if glyph.column < indent then
      if glyph.char = ' ' then blockLines? folded indent false block rest
      else if glyph.char = '\t' then none
      else some (block, glyph :: rest)
    else blockLines? folded indent true (block.startLine folded glyph.char) rest

/-- The block scalar after its mark, and what follows it. `column` is the column of the block around
it. -/
def blockScalar? (folded : Bool) (column : Option Nat) (text : List Glyph) :
    Option (String × List Glyph) := do
  let (header, rest) := BlockHeader.read text
  let lines ← endLine? rest
  let indent ←
    match header.increment with
    | some increment => some (column.getD 0 + increment)
    | none =>
      (blockIndent? 0 lines).map fun widest => max widest (column.elim 1 (· + 1))
  let (block, rest) ← blockLines? folded indent false {} lines
  return (block.finish header.chomping, rest)

end StoryMachine.Yaml
