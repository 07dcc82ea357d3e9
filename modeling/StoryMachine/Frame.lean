import StoryMachine.Instruction.Basic

/-! The activation of a routine: where it is, its local variables, and its evaluation stack.
Variable 0 is that stack. -/

namespace StoryMachine

/-- What becomes of a routine's result. -/
inductive RoutineKind where
  /-- It is stored in the caller. -/
  | function (store : Store)
  /-- It is dropped. -/
  | procedure
  /-- It tells the interrupted read whether to end. -/
  | interrupt
  deriving DecidableEq, Repr

structure Frame where
  kind : RoutineKind
  /-- The address of the routine. -/
  address : Nat
  /-- The address of the instruction to execute next. -/
  pc : Nat
  locals : List UInt16
  argumentCount : UInt8
  /-- The evaluation stack, its top first. -/
  stack : List UInt16 := []
  returnAddress : Nat
  deriving DecidableEq, Repr

namespace Frame

def result? (frame : Frame) : Option Store :=
  match frame.kind with
  | .function store => some store
  | .procedure | .interrupt => none

def push (frame : Frame) (value : UInt16) : Frame :=
  { frame with stack := value :: frame.stack }

def pop (frame : Frame) : Except Error (UInt16 × Frame) :=
  match frame.stack with
  | value :: rest => .ok (value, { frame with stack := rest })
  | [] => .error .emptyStackPopped

def peek (frame : Frame) : Except Error UInt16 :=
  match frame.stack with
  | value :: _ => .ok value
  | [] => .error .emptyStackPeeked

/-- A local variable; they are numbered from 1. -/
def localValue (frame : Frame) (access : LocalAccess) (number : Nat) : Except Error UInt16 :=
  match frame.locals[number - 1]? with
  | some value => .ok value
  | none => .error (.localOutOfRange access number frame.locals.length)

/-- Read a variable. Reading the stack pops it. -/
def read (frame : Frame) (number : Nat) : Except Error (UInt16 × Frame) :=
  if number = 0 then frame.pop
  else do
    let value ← frame.localValue .read number
    return (value, frame)

/-- Read a variable and leave the stack as it is. -/
def peekVariable (frame : Frame) (number : Nat) : Except Error UInt16 :=
  if number = 0 then frame.peek else frame.localValue .peek number

/-- Write a variable. Writing the stack pushes. -/
def write (frame : Frame) (number : Nat) (value : UInt16) : Except Error Frame :=
  if number = 0 then .ok (frame.push value)
  else if number ≤ frame.locals.length then
    .ok { frame with locals := frame.locals.set (number - 1) value }
  else .error (.localOutOfRange .write number frame.locals.length)

/-- Write a variable in place. Writing the stack replaces its top. -/
def replace (frame : Frame) (number : Nat) (value : UInt16) : Except Error Frame :=
  if number = 0 then do
    let (_, rest) ← frame.pop
    return rest.push value
  else frame.write number value

end Frame

end StoryMachine
