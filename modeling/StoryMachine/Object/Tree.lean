import StoryMachine.Story

/-! The object tree. Each object has an entry in the object table with links to its parent, its
next sibling and its first child; 0 is no object. -/

namespace StoryMachine

inductive Link where
  | parent
  | sibling
  | child
  deriving DecidableEq, Repr

/-- Where a link is in an entry. Links are bytes up to version 3 and words after. -/
def Link.offset (link : Link) (version : Version) : Nat :=
  if version < .v4 then
    match link with
    | .parent => 4
    | .sibling => 5
    | .child => 6
  else
    match link with
    | .parent => 6
    | .sibling => 8
    | .child => 10

namespace Story

/-- The address of an object's entry, which must lie in memory as a whole. -/
def objectAddress (story : Story) (object : Nat) : Except Error Nat :=
  if object = 0 ∨ story.version.maxObject < object then
    .error (.invalidObject object)
  else
    let table := (story.memory.headerWord .objectTable).toNat
    let size := story.version.objectEntrySize
    let address := table + story.version.propertyDefaults * 2 + size * (object - 1)
    if story.memory.size < address + size then .error (.objectPastMemory object address)
    else .ok address

def link (story : Story) (link : Link) (object : Nat) : Except Error Nat := do
  let address ← story.objectAddress object
  let place := address + link.offset story.version
  if story.version < .v4 then
    return (← story.memory.readByte place).toNat
  else
    return (← story.memory.readWord place).toNat

def parent (story : Story) (object : Nat) : Except Error Nat :=
  story.link .parent object

def sibling (story : Story) (object : Nat) : Except Error Nat :=
  story.link .sibling object

def child (story : Story) (object : Nat) : Except Error Nat :=
  story.link .child object

/-- The sibling before `object` in a chain that starts at `candidate`, looking at no more than
`steps` of them. -/
def previousSibling (story : Story) (object parent : Nat) :
    (steps candidate : Nat) → Except Error Nat
  | 0, _ => .error (.notAmongChildren object parent)
  | steps + 1, candidate => do
    if candidate = 0 then
      throw (.notAmongChildren object parent)
    let next ← story.sibling candidate
    if next = object then
      return candidate
    story.previousSibling object parent steps next

/-- Is `object` met on the way up from `candidate`, within `steps` steps? -/
def isAncestor (story : Story) (object : Nat) : (steps candidate : Nat) → Except Error Bool
  | 0, _ => .ok false
  | steps + 1, candidate => do
    if candidate = 0 then
      return false
    if candidate = object then
      return true
    story.isAncestor object steps (← story.parent candidate)

/-- More steps than there are objects: a walk that takes them all has met a loop. -/
def walkLimit (story : Story) : Nat :=
  story.version.maxObject + 1

end Story

namespace Update

def setLink (link : Link) (object value : Nat) : Update Unit := do
  let address ← query (·.objectAddress object)
  let version := (← get).version
  let place := address + link.offset version
  if version < .v4 then
    writeByte place (UInt8.ofNat value)
  else
    writeWord place (UInt16.ofNat value)

def setParent (object parent : Nat) : Update Unit :=
  setLink .parent object parent

def setSibling (object sibling : Nat) : Update Unit :=
  setLink .sibling object sibling

def setChild (object child : Nat) : Update Unit :=
  setLink .child object child

/-- Take an object out of its parent's children. Without a parent, do nothing. -/
def removeObject (object : Nat) : Update Unit := do
  let parent ← query (·.parent object)
  if parent ≠ 0 then
    let next ← query (·.sibling object)
    let first ← query (·.child parent)
    if first = object then
      setChild parent next
    else
      let limit := (← get).walkLimit
      let previous ← query (·.previousSibling object parent limit first)
      setSibling previous next
    setParent object 0
    setSibling object 0

/-- Make an object the first child of another, out of wherever it was. An object cannot go into
itself or below itself. -/
def insertObject (object destination : Nat) : Update Unit := do
  let _ ← query (·.objectAddress object)
  let _ ← query (·.objectAddress destination)
  let limit := (← get).walkLimit
  if ← query (·.isAncestor object limit destination) then
    throw (.insertionCycle object destination)
  removeObject object
  let first ← query (·.child destination)
  setSibling object first
  setChild destination object
  setParent object destination

end Update

end StoryMachine
