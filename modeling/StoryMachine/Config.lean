import StoryMachine.Error

/-! The settings of an interpreter. -/

namespace StoryMachine

/-- What happens on a recoverable error. -/
inductive ErrorPolicy where
  /-- Tell the player every time and carry on. -/
  | warnAlways
  /-- Tell the player once for each kind of error and carry on. -/
  | warnOnce
  /-- Carry on and say nothing. -/
  | ignore
  /-- Stop. -/
  | abort
  deriving DecidableEq, Repr

def ErrorPolicy.name : ErrorPolicy → String
  | warnAlways => "continue_warn_always"
  | warnOnce => "continue_warn_once"
  | ignore => "ignore"
  | abort => "abort"

def ErrorPolicy.ofName? (name : String) : Option ErrorPolicy :=
  [warnAlways, warnOnce, ignore, abort].find? (·.name == name)

structure Config where
  logging : Bool := false
  errorPolicy : ErrorPolicy := .warnAlways
  randomSeed : UInt64 := 0
  screenRows : UInt8 := 24
  screenColumns : UInt8 := 80
  /-- The kind of computer that stories are told they run on. -/
  interpreterNumber : UInt8 := 6
  interpreterVersion : UInt8 := 90
  deriving DecidableEq, Repr

end StoryMachine
