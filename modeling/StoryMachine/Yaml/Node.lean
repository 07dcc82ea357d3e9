import StoryMachine.Yaml.Tag

/-! The nodes of a configuration file as they are written: with their tags, and with anchors and the
references to them. -/

namespace StoryMachine.Yaml

structure Properties where
  /-- The number of the node's anchor. -/
  anchor : Option Nat := none
  tag : Option Tag := none
  deriving DecidableEq, Repr

inductive Node where
  | reference (anchor : Nat)
  | scalar (properties : Properties) (isPlain : Bool) (text : String)
  | sequence (properties : Properties) (items : List Node)
  | mapping (properties : Properties) (entries : List (Node × Node))

namespace Node

def empty : Node := scalar {} true ""

def properties : Node → Properties
  | reference _ => {}
  | scalar properties _ _ | sequence properties _ | mapping properties _ => properties

mutual

/-- The nodes with an anchor, in the order in which they start. -/
def anchored : Node → List (Nat × Node)
  | reference _ => []
  | node@(scalar properties _ _) => properties.anchor.toList.map (·, node)
  | node@(sequence properties items) =>
    properties.anchor.toList.map (·, node) ++ anchoredItems items
  | node@(mapping properties entries) =>
    properties.anchor.toList.map (·, node) ++ anchoredEntries entries

def anchoredItems : List Node → List (Nat × Node)
  | [] => []
  | item :: items => anchored item ++ anchoredItems items

def anchoredEntries : List (Node × Node) → List (Nat × Node)
  | [] => []
  | (key, value) :: entries => anchored key ++ anchored value ++ anchoredEntries entries

end

mutual

/-- How much is written: a scalar or a reference counts once, and a collection once for each of its
ends. -/
def extent : Node → Nat
  | reference _ | scalar _ _ _ => 1
  | sequence _ items => 2 + extentItems items
  | mapping _ entries => 2 + extentEntries entries

def extentItems : List Node → Nat
  | [] => 0
  | item :: items => extent item + extentItems items

def extentEntries : List (Node × Node) → Nat
  | [] => 0
  | (key, value) :: entries => extent key + extent value + extentEntries entries

end

end Node

end StoryMachine.Yaml
