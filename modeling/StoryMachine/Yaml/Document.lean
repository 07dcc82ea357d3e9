import StoryMachine.Yaml.Node.Reader
import StoryMachine.Yaml.Scalar
import StoryMachine.Yaml.Token.Lexer

/-! Configuration documents: mappings, lists and scalars. -/

namespace StoryMachine

inductive Yaml where
  | scalar (value : Yaml.Scalar)
  | sequence (items : List Yaml)
  | mapping (entries : List (Yaml × Yaml))
  /-- A value of the document's own kind. -/
  | tagged (kind : String) (value : Yaml)

namespace Yaml

def null : Yaml := scalar .null

mutual

/-- Are two values the same? The order of a mapping makes no difference. -/
def same : Yaml → Yaml → Bool
  | scalar first, scalar second => first = second
  | sequence first, sequence second => sameItems first second
  | mapping first, mapping second => first.length = second.length ∧ within first second
  | tagged firstKind first, tagged secondKind second => firstKind = secondKind ∧ same first second
  | _, _ => false

def sameItems : List Yaml → List Yaml → Bool
  | [], [] => true
  | first :: firsts, second :: seconds => same first second ∧ sameItems firsts seconds
  | _, _ => false

def within : List (Yaml × Yaml) → List (Yaml × Yaml) → Bool
  | [], _ => true
  | (key, value) :: rest, entries =>
    entries.any (fun entry => same key entry.1 ∧ same value entry.2) ∧ within rest entries

end

def hasRepeatedKey : List (Yaml × Yaml) → Bool
  | [] => false
  | (key, _) :: rest => rest.any (fun entry => same key entry.1) ∨ hasRepeatedKey rest

/-- A mapping has each key once. -/
def mapping? (entries : List (Yaml × Yaml)) : Option Yaml :=
  if hasRepeatedKey entries then none else some (mapping entries)

/-! ### Values of nodes -/

/-- What references stand for, and how many of them can be followed. -/
structure Anchors where
  nodes : List (Nat × Node)
  limit : Nat

/-- The value of a number is that of the last node it was given to. -/
def Anchors.ofNode (node : Node) : Anchors :=
  ⟨node.anchored.reverse, 100 * node.extent⟩

/-- Building a value, with the number of references followed so far. -/
abbrev Building := StateT Nat Option

namespace Building

def follow (anchors : Anchors) (number : Nat) : Building Node := do
  let count ← get
  set (count + 1)
  if count < anchors.limit then anchors.nodes.lookup number else failure

/-- The value of a node with at most `depth` collections inside each other. -/
def value (anchors : Anchors) (depth : Nat) (node : Node) : Building Yaml := do
  let node ←
    match node with
    | .reference number => follow anchors number
    | node => pure node
  let tag := node.properties.tag
  let kind := tag.bind Tag.customName?
  let content ←
    match node, depth with
    | .scalar _ isPlain text, _ => scalar <$> Scalar.of? tag isPlain text
    | .sequence _ items, depth + 1 => sequence <$> items.mapM (value anchors depth)
    | .mapping _ entries, depth + 1 => do
      let entries ← entries.mapM fun (key, content) => do
        return (← value anchors depth key, ← value anchors depth content)
      mapping? entries
    | _, _ => failure
  return kind.elim content (tagged · content)

end Building

/-- Read a file. Collections are at most 128 deep. -/
def parse? (text : String) : Option Yaml := do
  let tokens ← Token.scan? text
  let node ← Node.ofTokens? tokens
  let (document, _) ← Building.value (.ofNode node) 128 node 0
  return document

/-! ### Access -/

def untagged : Yaml → Yaml
  | tagged _ value => untagged value
  | value => value

def get (document : Yaml) (key : String) : Yaml :=
  match document.untagged with
  | mapping entries =>
    ((entries.find? fun entry => same (.scalar (.text key)) entry.1).map (·.2)).getD null
  | _ => null

def text? (value : Yaml) : Option String :=
  match value.untagged with
  | scalar (.text text) => some text
  | _ => none

/-- An integer of 64 bits without a sign. -/
def natural? (value : Yaml) : Option Nat :=
  match value.untagged with
  | scalar (.integer (.ofNat number)) => some number
  | _ => none

end Yaml

end StoryMachine
