import StoryMachine.Yaml.Block
import StoryMachine.Yaml.Plain
import StoryMachine.Yaml.Quoted
import StoryMachine.Yaml.Token

/-! Splitting a configuration file into tokens. The indentation of blocks becomes tokens that open
and close them. Whether a node is the key of a mapping shows only at the colon after it, so the
place where a key may have started is kept until then. -/

namespace StoryMachine.Yaml

structure KeyStart where
  glyph : Glyph
  /-- The number of tokens before it. -/
  position : Nat
  /-- Outside brackets only a key can stand in the column of a mapping. -/
  isRequired : Bool
  deriving DecidableEq, Repr

structure Lexer where
  text : List Glyph
  tokens : Array Token := #[]
  /-- The columns of the open blocks, the innermost first. -/
  columns : List Nat := []
  /-- The key that may have started inside the innermost brackets. -/
  key : Option KeyStart := none
  /-- The keys that may have started outside each of the open brackets, the innermost first. -/
  outerKeys : List (Option KeyStart) := []
  /-- Can a key start here? -/
  keyAllowed : Bool := true
  deriving DecidableEq, Repr

abbrev Lexing := StateT Lexer Option

namespace Lexer

def inFlow (lexer : Lexer) : Bool :=
  ¬ lexer.outerKeys.isEmpty

/-- Pass blanks, comments and line ends. A tab counts as a blank only where no key can start, or
inside brackets, and a byte order mark only at the start of a line. Outside brackets a key can start
on a new line. -/
def skip (inFlow inComment keyAllowed : Bool) : List Glyph → Bool × List Glyph
  | [] => (keyAllowed, [])
  | glyph :: rest =>
    let isSkipped := inComment ∨ glyph.char = ' ' ∨
      (glyph.char = '\t' ∧ (inFlow ∨ ¬ keyAllowed)) ∨
      (glyph.char = '\ufeff' ∧ glyph.column = 0)
    if glyph.isBreak then skip inFlow false (keyAllowed ∨ ¬ inFlow) rest
    else if isSkipped then skip inFlow inComment keyAllowed rest
    else if glyph.char = '#' then skip inFlow true keyAllowed rest
    else (keyAllowed, glyph :: rest)

def skipToToken (lexer : Lexer) : Lexer :=
  let (keyAllowed, text) := skip lexer.inFlow false lexer.keyAllowed lexer.text
  { lexer with keyAllowed, text }

def push (lexer : Lexer) (token : Token) : Lexer :=
  { lexer with tokens := lexer.tokens.push token }

def insert (lexer : Lexer) (position : Nat) (token : Token) : Lexer :=
  { lexer with tokens := lexer.tokens.insertIdxIfInBounds position token }

/-- Close the blocks that start to the right of a column, or all. Inside brackets there are no
blocks. -/
def closeBlocks (lexer : Lexer) (column : Option Nat) : Lexer :=
  if lexer.inFlow then lexer
  else
    let closed := lexer.columns.takeWhile fun start => column.all (· < start)
    { lexer with
      columns := lexer.columns.drop closed.length
      tokens := lexer.tokens ++ Array.replicate closed.length .blockEnd }

/-- Open a block in a column, unless one is open there. -/
def openBlock (lexer : Lexer) (column position : Nat) (token : Token) : Lexer :=
  if ¬ lexer.inFlow ∧ lexer.columns.head?.all (· < column) then
    { lexer with columns := column :: lexer.columns }.insert position token
  else lexer

end Lexer

/-- A key is on one line, and its colon comes within 1024 bytes. -/
def KeyStart.isStale (key : KeyStart) (here : Glyph) : Bool :=
  key.glyph.line < here.line ∨ key.glyph.index + 1024 < here.index

def KeyStart.giveUp? (key : Option KeyStart) : Option (Option KeyStart) :=
  if key.any (·.isRequired) then none else some none

namespace Lexing

def emit (token : Token) : Lexing Unit :=
  modify (·.push token)

def allowKey (allowed : Bool) : Lexing Unit :=
  modify fun lexer => { lexer with keyAllowed := allowed }

def goTo (text : List Glyph) : Lexing Unit :=
  modify fun lexer => { lexer with text }

def dropKey : Lexing Unit := do
  let key ← KeyStart.giveUp? (← get).key
  modify fun lexer => { lexer with key }

def dropStaleKeys (here : Glyph) : Lexing Unit := do
  let lexer ← get
  let refresh (key : Option KeyStart) :=
    if key.any (·.isStale here) then KeyStart.giveUp? key else some key
  let key ← refresh lexer.key
  let outerKeys ← lexer.outerKeys.mapM fun key => (refresh key : Option _)
  set { lexer with key, outerKeys }

def noteKey (glyph : Glyph) : Lexing Unit := do
  let lexer ← get
  if lexer.keyAllowed then
    dropKey
    let isRequired := ¬ lexer.inFlow ∧ lexer.columns.head? = some glyph.column
    modify fun lexer => { lexer with key := some ⟨glyph, lexer.tokens.size, isRequired⟩ }

/-- A directive or the mark of a document: it ends all blocks. -/
def documentToken (token : Token) (rest : List Glyph) : Lexing Unit := do
  modify (·.closeBlocks none)
  dropKey
  allowKey false
  goTo rest
  emit token

def openFlow (token : Token) (glyph : Glyph) (rest : List Glyph) : Lexing Unit := do
  noteKey glyph
  modify fun lexer => { lexer with outerKeys := lexer.key :: lexer.outerKeys, key := none }
  allowKey true
  goTo rest
  emit token

def closeFlow (token : Token) (rest : List Glyph) : Lexing Unit := do
  dropKey
  modify fun lexer =>
    match lexer.outerKeys with
    | [] => lexer
    | key :: outerKeys => { lexer with key, outerKeys }
  allowKey false
  goTo rest
  emit token

def flowEntry (rest : List Glyph) : Lexing Unit := do
  dropKey
  allowKey true
  goTo rest
  emit .flowEntry

/-- Open a block with an indicator that stands where a key can start. -/
def openBlockHere (glyph : Glyph) (token : Token) : Lexing Unit := do
  let lexer ← get
  unless lexer.inFlow do
    unless lexer.keyAllowed do failure
    set (lexer.openBlock glyph.column lexer.tokens.size token)

def blockEntry (glyph : Glyph) (rest : List Glyph) : Lexing Unit := do
  openBlockHere glyph .blockSequenceStart
  dropKey
  allowKey true
  goTo rest
  emit .blockEntry

def keyIndicator (glyph : Glyph) (rest : List Glyph) : Lexing Unit := do
  openBlockHere glyph .blockMappingStart
  dropKey
  allowKey (¬ (← get).inFlow)
  goTo rest
  emit .key

/-- A colon. If a key may have started, it did. -/
def valueIndicator (glyph : Glyph) (rest : List Glyph) : Lexing Unit := do
  match (← get).key with
  | some key =>
    modify fun lexer =>
      let lexer := lexer.insert key.position .key
      let lexer := lexer.openBlock key.glyph.column key.position .blockMappingStart
      { lexer with key := none, keyAllowed := false }
  | none =>
    openBlockHere glyph .blockMappingStart
    allowKey (¬ (← get).inFlow)
  goTo rest
  emit .value

/-- A token that a key can start with. -/
def keyToken (glyph : Glyph) (read : Option (Token × List Glyph)) : Lexing Unit := do
  noteKey glyph
  allowKey false
  let (token, rest) ← read
  goTo rest
  emit token

def plain (glyph : Glyph) (rest : List Glyph) : Lexing Unit := do
  noteKey glyph
  let lexer ← get
  let indent := lexer.columns.head?.elim 0 (· + 1)
  let scalar ← plain? lexer.inFlow indent .empty [] (glyph :: rest)
  allowKey scalar.endsLine
  goTo scalar.rest
  emit (.scalar true scalar.text)

def block (folded : Bool) (rest : List Glyph) : Lexing Unit := do
  let lexer ← get
  if lexer.inFlow then failure
  dropKey
  allowKey true
  let (text, rest) ← blockScalar? folded lexer.columns.head? rest
  goTo rest
  emit (.scalar false text)

def token (glyph : Glyph) (rest : List Glyph) : Lexing Unit := do
  let text := glyph :: rest
  let inFlow := (← get).inFlow
  let isIndicator := startsGap rest
  if glyph.column = 0 ∧ glyph.char = '%' then
    let (token, rest) ← directive? rest
    documentToken token rest
  else if isMark '-' text then documentToken .documentStart (text.drop 3)
  else if isMark '.' text then documentToken .documentEnd (text.drop 3)
  else
    match glyph.char with
    | '[' => openFlow .flowSequenceStart glyph rest
    | ']' => closeFlow .flowSequenceEnd rest
    | '{' => openFlow .flowMappingStart glyph rest
    | '}' => closeFlow .flowMappingEnd rest
    | ',' => flowEntry rest
    | '-' => if isIndicator then blockEntry glyph rest else plain glyph rest
    | '?' => if inFlow ∨ isIndicator then keyIndicator glyph rest else plain glyph rest
    | ':' => if inFlow ∨ isIndicator then valueIndicator glyph rest else plain glyph rest
    | '*' => keyToken glyph ((anchorName? rest).map fun (name, rest) => (.reference name, rest))
    | '&' => keyToken glyph ((anchorName? rest).map fun (name, rest) => (.anchor name, rest))
    | '!' => keyToken glyph ((endedTagName? inFlow text).map fun (name, rest) => (.tag name, rest))
    | '\'' =>
      keyToken glyph
        ((singleQuoted? .empty [] rest).map fun (text, rest) => (.scalar false text, rest))
    | '\"' =>
      keyToken glyph
        ((doubleQuoted? .empty [] rest).map fun (text, rest) => (.scalar false text, rest))
    | '|' => block false rest
    | '>' => block true rest
    | char => if char ∈ ['\t', '%', '@', Char.ofNat 96] then failure else plain glyph rest

/-- The remaining tokens; each takes at least one character. -/
def tokens : (fuel : Nat) → Lexing Unit
  | 0 => failure
  | fuel + 1 => do
    modify (·.skipToToken)
    match (← get).text with
    | [] => do
      modify (·.closeBlocks none)
      dropKey
    | glyph :: rest => do
      dropStaleKeys glyph
      modify (·.closeBlocks (some glyph.column))
      token glyph rest
      tokens fuel

end Lexing

def Token.scan? (text : String) : Option (List Token) := do
  let glyphs ← glyphs? text
  let (_, lexer) ← Lexing.tokens (glyphs.length + 1) { text := glyphs }
  return lexer.tokens.toList

end StoryMachine.Yaml
