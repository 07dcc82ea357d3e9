import StoryMachine.Frame

/-! The call stack: the activations under way, the innermost first. -/

namespace StoryMachine

structure CallStack where
  frames : List Frame := []
  deriving DecidableEq, Repr

namespace CallStack

def depth (stack : CallStack) : Nat :=
  stack.frames.length

def isEmpty (stack : CallStack) : Bool :=
  stack.frames.isEmpty

def push (stack : CallStack) (frame : Frame) : CallStack :=
  ⟨frame :: stack.frames⟩

def pop (stack : CallStack) : Except Error (Frame × CallStack) :=
  match stack.frames with
  | frame :: rest => .ok (frame, ⟨rest⟩)
  | [] => .error .noFrameToPop

def top (stack : CallStack) : Except Error Frame :=
  match stack.frames with
  | frame :: _ => .ok frame
  | [] => .error .noActiveFrame

/-- Change the innermost frame, or fail and change nothing. -/
def modifyTop (stack : CallStack) (change : Frame → Except Error (α × Frame)) :
    Except Error (α × CallStack) :=
  match stack.frames with
  | frame :: rest => do
    let (value, frame) ← change frame
    return (value, ⟨frame :: rest⟩)
  | [] => .error .noActiveFrame

/-- Keep the outermost `depth` frames. -/
def truncate (stack : CallStack) (depth : Nat) : CallStack :=
  ⟨stack.frames.drop (stack.depth - depth)⟩

end CallStack

end StoryMachine
