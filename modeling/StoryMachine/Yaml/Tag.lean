import StoryMachine.Yaml.Digits
import StoryMachine.Yaml.Glyph

/-! Tags, which say what kind of value a node is, and the handles that shorten them. -/

namespace StoryMachine.Yaml

inductive Tag where
  | null
  | bool
  | integer
  | real
  /-- A kind of the document's own, by its name. -/
  | custom (name : String)
  /-- Any other kind. -/
  | other
  deriving DecidableEq, Repr

/-- A tag as it is written: a handle, which is empty for a full tag, and the bytes after it. -/
structure TagName where
  handle : String
  suffix : List UInt8
  deriving DecidableEq, Repr

namespace Tag

/-- What the tags of the document's own kinds start with. -/
def mark : List UInt8 := "!".toUTF8.toList

def core : List (String × Tag) :=
  [("tag:yaml.org,2002:null", null), ("tag:yaml.org,2002:bool", bool),
    ("tag:yaml.org,2002:int", integer), ("tag:yaml.org,2002:float", real)]

def handles : List (String × List UInt8) :=
  [("!", mark), ("!!", "tag:yaml.org,2002:".toUTF8.toList)]

/-- Leave out an exclamation mark at the start of a name that goes on after it. -/
def dropMark (name : String) : String :=
  match name.toList with
  | '!' :: first :: rest => String.ofList (first :: rest)
  | _ => name

/-- The tag of a full name. A name that starts with an exclamation mark is of the document's own; it
does not count if it is no text. -/
def ofBytes? (bytes : List UInt8) : Option Tag :=
  match String.fromUTF8? ⟨bytes.toArray⟩ with
  | some name =>
    if name.toList.head? = some '!' then some (custom (dropMark (dropMark name)))
    else some ((core.lookup name).getD other)
  | none => if bytes.head? = mark.head? then none else some other

def customName? : Tag → Option String
  | custom name => some name
  | _ => none

end Tag

/-! ### Reading tags -/

/-- The characters of a tag. Commas and square brackets are among them only where the tag is set
apart from what surrounds it. -/
def isTagCharacter (apart : Bool) (char : Char) : Bool :=
  isNameCharacter char ∨
    char ∈ [';', '/', '?', ':', '@', '&', '=', '+', '$', '.', '%', '!', '~', '*', '\'', '(', ')'] ∨
    (apart ∧ char ∈ [',', '[', ']'])

/-- How many bytes follow the first byte of a character. -/
def trailingBytes? (first : Nat) : Option Nat :=
  if first < 0x80 then some 0
  else if first / 32 = 6 then some 1
  else if first / 16 = 14 then some 2
  else if first / 8 = 30 then some 3
  else none

/-- The bytes of a tag, some of which are written as a percent sign and two hexadecimal digits.
`pending` bytes of a character are still to come. -/
def unescape? (pending : Nat) : List Char → Option (List UInt8)
  | [] => if pending = 0 then some [] else none
  | '%' :: high :: low :: rest => do
    let byte := 16 * (← Digits.value? 16 high) + (← Digits.value? 16 low)
    let after ←
      if pending = 0 then trailingBytes? byte
      else if byte / 64 = 2 then some (pending - 1)
      else none
    (unescape? after rest).map (UInt8.ofNat byte :: ·)
  | char :: rest =>
    if pending = 0 ∧ char ≠ '%' then
      (unescape? 0 rest).map (UInt8.ofNat char.toNat :: ·)
    else none

/-- The bytes of a tag up to a zero, and what follows the tag. -/
def tagBytes? (apart : Bool) (start : String) (text : List Glyph) :
    Option (List UInt8 × List Glyph) := do
  let (run, rest) := text.span fun glyph => isTagCharacter apart glyph.char
  let bytes ← unescape? 0 (start.toList ++ run.map (·.char))
  return (bytes.takeWhile (· ≠ 0), rest)

def someTagBytes? (apart : Bool) (text : List Glyph) : Option (List UInt8 × List Glyph) :=
  if text.head?.any fun glyph => isTagCharacter apart glyph.char then tagBytes? apart "" text
  else none

/-- A name between exclamation marks, of which the last may be missing. -/
def handle? : List Glyph → Option (String × List Glyph)
  | [] => none
  | first :: text =>
    if first.char ≠ '!' then none
    else
      let (name, rest) := text.span fun glyph => isNameCharacter glyph.char
      if rest.head?.any (·.char = '!') then
        some ("!" ++ stringOf name ++ "!", rest.drop 1)
      else some ("!" ++ stringOf name, rest)

def isWholeHandle (handle : String) : Bool :=
  2 ≤ handle.length ∧ handle.toList.getLast? = some '!'

/-- A tag: one in angle brackets is full; one without a handle has the handle of the document's own
kinds. -/
def tagName? (text : List Glyph) : Option (TagName × List Glyph) :=
  if (text.drop 1).head?.any (·.char = '<') then do
    let (suffix, rest) ← someTagBytes? true (text.drop 2)
    if rest.head?.any (·.char = '>') then some (⟨"", suffix⟩, rest.drop 1) else none
  else do
    let (handle, rest) ← handle? text
    if isWholeHandle handle then
      let (suffix, rest) ← someTagBytes? false rest
      return (⟨handle, suffix⟩, rest)
    else
      let (suffix, rest) ← tagBytes? false (String.ofList (handle.toList.drop 1)) rest
      return (if suffix.isEmpty then ⟨"", Tag.mark⟩ else ⟨"!", suffix⟩, rest)

/-- A tag that ends with a gap, or inside brackets with a comma. -/
def endedTagName? (inFlow : Bool) (text : List Glyph) : Option (TagName × List Glyph) := do
  let (name, rest) ← tagName? text
  if startsGap rest ∨ (inFlow ∧ rest.head?.any (·.char = ',')) then some (name, rest) else none

end StoryMachine.Yaml
