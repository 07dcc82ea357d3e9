import StoryMachine.CallStack

/-! Saved states of a story: what a snapshot holds, where snapshots are kept, and the bounded
history that undo takes back. -/

namespace StoryMachine

structure StoryId where
  release : UInt16
  serial : List UInt8
  checksum : UInt16
  deriving DecidableEq, Repr

structure Snapshot where
  image : Array UInt8
  stack : CallStack
  story : StoryId
  /-- The address of the instruction that took the snapshot. -/
  address : Nat
  deriving DecidableEq, Repr

/-- A place outside the machine that keeps saved games. -/
class SaveStore (η : Type) where
  /-- Keep a snapshot, and tell whether that worked. -/
  save : Snapshot → η → Bool × η
  /-- Give back a snapshot, if there is one. -/
  restore : η → Option Snapshot × η

/-- A store that keeps the last snapshot it was given. -/
structure MemoryStore where
  saved : Option Snapshot := none
  deriving DecidableEq

instance : SaveStore MemoryStore where
  save snapshot _ := (true, ⟨some snapshot⟩)
  restore store := (store.saved, store)

/-- The snapshots that undo can go back to, the latest first. -/
structure UndoHistory where
  snapshots : List Snapshot := []
  deriving DecidableEq

namespace UndoHistory

def limit : Nat := 10

def push (history : UndoHistory) (snapshot : Snapshot) : UndoHistory :=
  ⟨(snapshot :: history.snapshots).take limit⟩

def pop? (history : UndoHistory) : Option (Snapshot × UndoHistory) :=
  match history.snapshots with
  | snapshot :: rest => some (snapshot, ⟨rest⟩)
  | [] => none

end UndoHistory

end StoryMachine
