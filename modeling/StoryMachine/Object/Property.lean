import StoryMachine.Object.Tree

/-! Properties. An object's property table holds its short name and then its properties, their
numbers descending, up to a zero byte. -/

namespace StoryMachine

structure Property where
  number : Nat
  /-- The address of its data. -/
  data : Nat
  length : Nat
  deriving DecidableEq, Repr

/-- The data length in a second size byte, which has no way to write 64 but 0. -/
def longPropertyLength (size : UInt8) : Nat :=
  if size.toNat % 64 = 0 then 64 else size.toNat % 64

namespace Story

def propertyTable (story : Story) (object : Nat) : Except Error Nat := do
  let address ← story.objectAddress object
  let offset := if story.version < .v4 then 7 else 12
  return (← story.memory.readWord (address + offset)).toNat

def propertyAt (story : Story) (address : Nat) : Except Error Property := do
  let size ← story.memory.readByte address
  if story.version < .v4 then
    return ⟨size.toNat % 32, address + 1, size.toNat / 32 + 1⟩
  else if 0x80 ≤ size then
    let second ← story.memory.readByte (address + 1)
    return ⟨size.toNat % 64, address + 2, longPropertyLength second⟩
  else if 0x40 ≤ size then
    return ⟨size.toNat % 64, address + 1, 2⟩
  else
    return ⟨size.toNat % 64, address + 1, 1⟩

/-- The address of an object's first property, after its short name. -/
def firstProperty (story : Story) (object : Nat) : Except Error Nat := do
  let table ← story.propertyTable object
  let nameWords ← story.memory.readByte table
  return table + 1 + nameWords.toNat * 2

theorem data_gt_of_propertyAt {story : Story} {address : Nat} {property : Property}
    (read : story.propertyAt address = .ok property) :
    address < story.memory.size ∧ address < property.data := by
  unfold propertyAt Memory.readByte at read
  by_cases inside : address < story.memory.size
  · refine ⟨inside, ?_⟩
    simp only [inside, ↓reduceIte] at read
    simp only [bind, Except.bind, pure, Except.pure] at read
    repeat' split at read
    all_goals cases read
    all_goals simp
  · simp [inside, bind, Except.bind] at read

/-- Look for a property from an address on. Numbers descend, so a smaller one ends the search. -/
def findProperty (story : Story) (number address : Nat) : Except Error (Option Property) :=
  if story.memory.byteAt address = 0 ∧ address < story.memory.size then
    .ok none
  else
    match _ : story.propertyAt address with
    | .error error => .error error
    | .ok property =>
      if property.number = number then .ok (some property)
      else if property.number < number then .ok none
      else story.findProperty number (property.data + property.length)
termination_by story.memory.size - address
decreasing_by
  have := data_gt_of_propertyAt ‹_›
  omega

def property? (story : Story) (object number : Nat) : Except Error (Option Property) := do
  story.findProperty number (← story.firstProperty object)

/-- Property numbers run from 1 to a largest one. -/
def checkProperty (story : Story) (object number : Nat) : Except Error Unit :=
  if number = 0 ∨ story.version.maxProperty < number then .error (.invalidProperty number object)
  else .ok ()

/-- The address of a property's data, and 0 if the object does not have the property. -/
def propertyDataAddress (story : Story) (object number : Nat) : Except Error Nat := do
  story.checkProperty object number
  match ← story.property? object number with
  | some property => return property.data
  | none => return 0

/-- The length of a property's data from the address of the data, and 0 for the address 0. -/
def propertyLength (story : Story) (data : Nat) : Except Error Nat := do
  if data = 0 then
    return 0
  let size ← story.memory.readByte (data - 1)
  if story.version < .v4 then
    return size.toNat / 32 + 1
  else if 0x80 ≤ size then
    return longPropertyLength size
  else if 0x40 ≤ size then
    return 2
  else
    return 1

def shortName (story : Story) (object : Nat) : Except Error (List UInt16) := do
  let table ← story.propertyTable object
  let words ← story.memory.readByte table
  story.memory.readWords (table + 1) words.toNat

/-- The value of a property that an object does not have, from a table of defaults. -/
def defaultProperty (story : Story) (object number : Nat) : Except Error UInt16 := do
  if number = 0 ∨ story.version.propertyDefaults < number then
    throw (.noDefaultProperty object number)
  let table := (story.memory.headerWord .objectTable).toNat
  story.memory.readWord (table + (number - 1) * 2)

/-- The value of a property of one or two bytes, or its default if the object does not have
it. -/
def propertyValue (story : Story) (object number : Nat) : Except Error UInt16 := do
  story.checkProperty object number
  match ← story.property? object number with
  | none => story.defaultProperty object number
  | some ⟨_, data, 1⟩ => return (← story.memory.readByte data).toUInt16
  | some ⟨_, data, 2⟩ => story.memory.readWord data
  | some ⟨_, _, length⟩ => throw (.propertyLength .read number object length)

/-- The number of the property after the given one, or of the first one after 0. The last is
followed by 0. -/
def nextProperty (story : Story) (object number : Nat) : Except Error Nat := do
  let address ←
    if number = 0 then
      story.firstProperty object
    else
      match ← story.property? object number with
      | some property => pure (property.data + property.length)
      | none => throw (.noNextProperty number object)
  let size ← story.memory.readByte address
  return size.toNat % if story.version < .v4 then 32 else 64

end Story

namespace Update

/-- Set a property of one or two bytes that the object has. One byte takes the low half. -/
def setProperty (object number : Nat) (value : UInt16) : Update Unit := do
  query (·.checkProperty object number)
  match ← query (·.property? object number) with
  | none => throw (.propertyMissing object number)
  | some ⟨_, data, 1⟩ => writeByte data (lowByte value)
  | some ⟨_, data, 2⟩ => writeWord data value
  | some ⟨_, _, length⟩ => throw (.propertyLength .write number object length)

end Update

end StoryMachine
