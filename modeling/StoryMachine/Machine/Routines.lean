import StoryMachine.Machine.Variables

/-! Calling routines and returning from them. -/

namespace StoryMachine

def maxLocals : Nat := 15

/-- The address where the routine at an address starts executing, and its local variables. Up to
version 4 their values stand before the code, later they are 0. -/
def Story.routine (story : Story) (address : Nat) : Except Error (Nat × List UInt16) := do
  let count := (← story.memory.readByte address).toNat
  if maxLocals < count then
    throw (.tooManyLocals address count)
  if story.version < .v5 then
    let locals ← story.memory.readWords (address + 1) count
    return (address + 1 + count * 2, locals)
  else
    return (address + 1, List.replicate count 0)

def passArguments (arguments locals : List UInt16) : List UInt16 :=
  arguments.take locals.length ++ locals.drop arguments.length

namespace Engine

variable {η : Type}

/-- Call the routine at an address. The address 0 is no routine: such a call returns 0. -/
def call (address : Nat) (arguments : List UInt16) (kind : RoutineKind) (returnAddress : Nat) :
    Engine η Continuation := do
  if address = 0 then
    if let .function store := kind then
      writeVariable store.target.toNat 0
    return .goto returnAddress
  let (start, locals) ← query (·.routine address)
  modify fun machine =>
    { machine with
      stack := machine.stack.push
        { kind, address, pc := start, locals := passArguments arguments locals,
          argumentCount := UInt8.ofNat arguments.length, returnAddress } }
  return .goto start

/-- Return a value from the innermost routine. Returning from the outermost one ends the
story. -/
def returnValue (value : UInt16) : Engine η Continuation := do
  if (← get).stack.isEmpty then
    throw .returnWithoutFrame
  let frame ← updateStack (·.pop)
  if (← get).stack.isEmpty then
    return .quit
  match frame.kind with
  | .function store =>
    writeVariable store.target.toNat value
    return .goto frame.returnAddress
  | .procedure => return .goto frame.returnAddress
  | .interrupt => return .resume frame.returnAddress value

/-- Return a value from the routine that was innermost when the call stack had this depth. -/
def throwTo (depth : Nat) (value : UInt16) : Engine η Continuation := do
  let stack := (← get).stack
  if depth = 0 ∨ stack.depth < depth then
    throw (.throwOutOfRange depth stack.depth)
  modify fun machine => { machine with stack := machine.stack.truncate depth }
  returnValue value

end Engine

end StoryMachine
