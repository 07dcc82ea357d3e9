import StoryMachine.Yaml.Node
import StoryMachine.Yaml.Token

/-! Reading nodes from tokens. -/

namespace StoryMachine.Yaml

/-- The tokens that are left, and what the document has named so far. -/
structure Reader where
  tokens : List Token
  handles : List (String × List UInt8) := []
  anchors : List (String × Nat) := []
  deriving DecidableEq, Repr

abbrev Reading := StateT Reader Option

namespace Reading

def peek : Reading (Option Token) := do
  return (← get).tokens.head?

def advance : Reading Unit :=
  modify fun reader => { reader with tokens := reader.tokens.drop 1 }

def isNext (tokens : List Token) : Reading Bool := do
  return (← peek).any (· ∈ tokens)

def accept (token : Token) : Reading Bool := do
  let found ← isNext [token]
  if found then advance
  return found

def expect (token : Token) : Reading Unit := do
  unless ← accept token do failure

/-! ### Directives and properties -/

/-- The directives before a document. It has at most one version, 1.1 or 1.2, and gives each handle
once. -/
def directives : (fuel : Nat) → (versioned : Bool) → Reading Unit
  | 0, _ => failure
  | fuel + 1, versioned => do
    match ← peek with
    | some (.versionDirective major minor) => do
      if versioned ∨ major ≠ 1 ∨ (minor ≠ 1 ∧ minor ≠ 2) then failure
      advance
      directives fuel true
    | some (.tagDirective handle start) => do
      let reader ← get
      if (reader.handles.lookup handle).isSome then failure
      set { reader with handles := (handle, start) :: reader.handles }
      advance
      directives fuel versioned
    | _ => modify fun reader => { reader with handles := reader.handles ++ Tag.handles }

/-- Give a name to the node that starts here. Anchors are numbered by how many names there are, so
when a name is given again, a later name can get the same number. The number then stands for the
later node. -/
def nameAnchor (name : String) : Reading Nat := do
  let reader ← get
  let number := reader.anchors.length
  let others := reader.anchors.filter (·.1 ≠ name)
  set { reader with anchors := (name, number) :: others }
  return number

/-- The bytes of a tag without its handle. -/
def fullTag (name : TagName) : Reading (List UInt8) := do
  if name.handle.isEmpty then return name.suffix
  let start ← (← get).handles.lookup name.handle
  return start ++ name.suffix

/-- An anchor and a tag, in either order; neither has to be there. -/
def properties : Reading (Option String × Option TagName) := do
  match ← peek with
  | some (.anchor name) => do
    advance
    match ← peek with
    | some (.tag tag) => do
      advance
      return (some name, some tag)
    | _ => return (some name, none)
  | some (.tag tag) => do
    advance
    match ← peek with
    | some (.anchor name) => do
      advance
      return (some name, some tag)
    | _ => return (none, some tag)
  | _ => return (none, none)

/-! ### Nodes -/

mutual

/-- A node. Blocks are allowed outside brackets only. As a part of a mapping, a list need not be
indented further than the mapping. -/
def node : (fuel : Nat) → (inBlock inMapping : Bool) → Reading Node
  | 0, _, _ => failure
  | fuel + 1, inBlock, inMapping => do
    match ← peek with
    | some (.reference name) => do
      advance
      return .reference (← (← get).anchors.lookup name)
    | _ => do
      let (anchorName, tagName) ← properties
      let bytes ← tagName.mapM fullTag
      let anchor ← anchorName.mapM nameAnchor
      let tag := bytes.bind Tag.ofBytes?
      match ← peek with
      | some (.scalar isPlain text) => do
        advance
        return .scalar ⟨anchor, tag⟩ isPlain text
      | some .flowSequenceStart => do
        advance
        return .sequence ⟨anchor, tag⟩ (← flowItems fuel true)
      | some .flowMappingStart => do
        advance
        return .mapping ⟨anchor, tag⟩ (← flowEntries fuel true)
      | next => do
        if inMapping ∧ next = some .blockEntry then
          return .sequence ⟨anchor, tag⟩ (← looseItems fuel)
        if inBlock ∧ next = some .blockSequenceStart then
          advance
          return .sequence ⟨anchor, tag⟩ (← blockItems fuel)
        if inBlock ∧ next = some .blockMappingStart then
          advance
          return .mapping ⟨anchor, tag⟩ (← blockEntries fuel)
        if anchorName.isSome ∨ tagName.isSome then
          return .scalar ⟨anchor, tag⟩ true ""
        failure

/-- A node, or nothing if one of some tokens comes next. -/
def nodeUnless : (fuel : Nat) → (inBlock inMapping : Bool) → List Token → Reading Node
  | 0, _, _, _ => failure
  | fuel + 1, inBlock, inMapping, tokens => do
    if ← isNext tokens then return .empty
    node fuel inBlock inMapping

def blockItems : (fuel : Nat) → Reading (List Node)
  | 0 => failure
  | fuel + 1 => do
    if ← accept .blockEnd then return []
    expect .blockEntry
    let item ← nodeUnless fuel true false [.blockEntry, .blockEnd]
    return item :: (← blockItems fuel)

/-- The items of a list that is indented like the mapping around it. -/
def looseItems : (fuel : Nat) → Reading (List Node)
  | 0 => failure
  | fuel + 1 => do
    if ← accept .blockEntry then
      let item ← nodeUnless fuel true false [.blockEntry, .key, .value, .blockEnd]
      return item :: (← looseItems fuel)
    return []

def blockEntries : (fuel : Nat) → Reading (List (Node × Node))
  | 0 => failure
  | fuel + 1 => do
    if ← accept .blockEnd then return []
    expect .key
    let key ← nodeUnless fuel true true [.key, .value, .blockEnd]
    let value ←
      if ← accept .value then nodeUnless fuel true true [.key, .value, .blockEnd]
      else pure .empty
    return (key, value) :: (← blockEntries fuel)

/-- The items up to the bracket that closes a list. A key is a mapping of its own. -/
def flowItems : (fuel : Nat) → (first : Bool) → Reading (List Node)
  | 0, _ => failure
  | fuel + 1, first => do
    if ← accept .flowSequenceEnd then return []
    unless first do expect .flowEntry
    if ← accept .flowSequenceEnd then return []
    let item ← if ← accept .key then flowPair fuel else node fuel false false
    return item :: (← flowItems fuel false)

/-- A key and its value in a list. The token after a key that is not there belongs to the key. -/
def flowPair : (fuel : Nat) → Reading Node
  | 0 => failure
  | fuel + 1 => do
    let key ←
      if ← isNext [.value, .flowEntry, .flowSequenceEnd] then do
        advance
        pure .empty
      else node fuel false false
    let value ←
      if ← accept .value then nodeUnless fuel false false [.flowEntry, .flowSequenceEnd]
      else pure .empty
    return .mapping {} [(key, value)]

def flowEntries : (fuel : Nat) → (first : Bool) → Reading (List (Node × Node))
  | 0, _ => failure
  | fuel + 1, first => do
    if ← accept .flowMappingEnd then return []
    unless first do expect .flowEntry
    if ← accept .flowMappingEnd then return []
    let entry ←
      if ← accept .key then do
        let key ← nodeUnless fuel false false [.value, .flowEntry, .flowMappingEnd]
        let value ←
          if ← accept .value then nodeUnless fuel false false [.flowEntry, .flowMappingEnd]
          else pure .empty
        pure (key, value)
      else do
        let key ← node fuel false false
        pure (key, .empty)
    return entry :: (← flowEntries fuel false)

end

/-! ### Documents -/

def isDirective : Token → Bool
  | .versionDirective _ _ | .tagDirective _ _ => true
  | _ => false

/-- The node of a document. After the mark of a document, or in a file that has nothing in it, it
may be missing. -/
def document (fuel : Nat) : Reading Node := do
  let next ← peek
  let marked := next.any fun token => isDirective token ∨ token = .documentStart
  directives fuel false
  if marked then
    expect .documentStart
    let next ← peek
    if next.all fun token => isDirective token ∨ token ∈ [.documentStart, .documentEnd] then
      return .empty
    else node fuel true false
  else if next.isNone then return .empty
  else node fuel true false

end Reading

def Node.ofTokens? (tokens : List Token) : Option Node := do
  let fuel := 4 * (tokens.length + 1)
  let (node, reader) ← Reading.document fuel { tokens }
  if reader.tokens.all (· = .documentEnd) then some node else none

end StoryMachine.Yaml
