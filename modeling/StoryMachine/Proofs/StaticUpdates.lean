import StoryMachine.Machine.Starting
import StoryMachine.Proofs.Writes
import StoryMachine.Semantics.Dispatch

/-! No update of a story changes anything at or past the static mark: each is made of writes, and
of changes to the header, which lies below the mark. -/

namespace StoryMachine

theorem HeaderField.address_lt (field : HeaderField) : field.address + 1 < headerSize := by
  cases field <;> decide

namespace Story.SameStatic

theorem setHeaderByte (story : Story) (field : HeaderField) (value : UInt8) :
    SameStatic story { story with memory := story.memory.setHeaderByte field value } := by
  have inside := Nat.lt_of_lt_of_le field.address_lt story.memory.header_le_mark
  exact .put story (Nat.lt_of_succ_lt inside) value

theorem setHeaderWord (story : Story) (field : HeaderField) (value : UInt16) :
    SameStatic story { story with memory := story.memory.setHeaderWord field value } := by
  have inside := Nat.lt_of_lt_of_le field.address_lt story.memory.header_le_mark
  exact .putWord story inside value

section Interpreter

variable {story : Story} {memory : Memory} (same : SameStatic story { story with memory })
include same

private theorem byte (field : HeaderField) (value : UInt8) :
    SameStatic story { story with memory := memory.setHeaderByte field value } :=
  trans_of SameStatic same (setHeaderByte { story with memory } field value)

private theorem word (field : HeaderField) (value : UInt16) :
    SameStatic story { story with memory := memory.setHeaderWord field value } :=
  trans_of SameStatic same (setHeaderWord { story with memory } field value)

private theorem flags (masks : List UInt8) :
    SameStatic story { story with memory := masks.foldl Memory.setFlag1 memory } := by
  induction masks generalizing memory with
  | nil => exact same
  | cons mask rest ih => exact ih (same.byte .flags1 _)

end Interpreter

/-- The interpreter describes itself in the header only. -/
theorem describeInterpreter (story : Story) (version : Version) (config : Config) :
    SameStatic story
      { story with memory := story.memory.describeInterpreter version config } := by
  have unchanged := refl_of SameStatic story
  have early : SameStatic story { story with
      memory := if version < .v4 then
          ((story.memory.clearFlag1 EarlyFlag.statusLineNotAvailable).setFlag1
            EarlyFlag.screenSplitAvailable).clearFlag1 EarlyFlag.variablePitchDefault
        else (story.memory.setHeaderByte .screenLines config.screenRows).setHeaderByte
          .screenColumns config.screenColumns } := by
    split
    · exact ((unchanged.byte .flags1 _).byte .flags1 _).byte .flags1 _
    · exact (unchanged.byte .screenLines _).byte .screenColumns _
  unfold Memory.describeInterpreter
  refine ((byte (byte ?_ .interpreterNumber _) .interpreterVersion _)).word .revision _
  split
  next => exact early
  next =>
    refine ((word (word ?_ .screenWidth _) .screenHeight _).byte .fontWidth _).byte .fontHeight _
    split
    · exact (early.flags _).byte .flags1 _
    · exact (early.flags _).byte .flags1 _

end Story.SameStatic

namespace Update
open Story

theorem keeps_setHeaderWord (field : HeaderField) (value : Memory → UInt16) :
    Keeps SameStatic
      (modifyMemory fun memory => .ok (memory.setHeaderWord field (value memory))) := by
  apply keeps_modifyMemory
  intro story memory written
  cases written
  exact .setHeaderWord story field _

theorem keeps_setExtension (entry : ExtensionWord) (value : UInt16) :
    Keeps SameStatic (modifyMemory (·.setExtension entry value)) := by
  apply keeps_modifyMemory
  intro story memory written
  simp only [Memory.setExtension, bind, Except.bind] at written
  split at written
  next => cases written
  next found =>
    split at written
    next address =>
      have kept := keeps_writeWord address value story
      simp only [writeWord, modifyMemory, written] at kept
      exact kept
    next =>
      cases written
      exact refl_of SameStatic story

theorem keeps_setGlobal (number : Nat) (value : UInt16) :
    Keeps SameStatic (setGlobal number value) :=
  keeps_get.bind fun _ => keeps_writeWord _ _

section Objects

theorem keeps_setLink (link : Link) (object value : Nat) :
    Keeps SameStatic (setLink link object value) := by
  refine (keeps_query _).bind fun address => ?_
  refine keeps_get.bind fun story => ?_
  exact (keeps_writeByte _ _).ite (keeps_writeWord _ _)

theorem keeps_removeObject (object : Nat) : Keeps SameStatic (removeObject object) := by
  have orphaned (_ : Unit) :
      Keeps SameStatic (setParent object 0 >>= fun _ => setSibling object 0) :=
    (keeps_setLink .parent object 0).bind fun _ => keeps_setLink .sibling object 0
  refine (keeps_query _).bind fun parent => ?_
  refine Keeps.ite ?_ (keeps_pure ())
  refine (keeps_query _).bind fun next => ?_
  refine (keeps_query _).bind fun first => ?_
  refine Keeps.ite ((keeps_setLink .child parent next).bind orphaned) ?_
  refine keeps_get.bind fun story => ?_
  refine (keeps_query _).bind fun previous => ?_
  exact (keeps_setLink .sibling previous next).bind orphaned

theorem keeps_insertObject (object destination : Nat) :
    Keeps SameStatic (insertObject object destination) := by
  refine (keeps_query _).bind fun _ => ?_
  refine (keeps_query _).bind fun _ => ?_
  refine keeps_get.bind fun story => ?_
  refine (keeps_query _).bind fun cyclic => ?_
  refine (keeps_throw _).ite_bind fun _ => ?_
  refine (keeps_removeObject object).bind fun _ => ?_
  refine (keeps_query _).bind fun first => ?_
  refine (keeps_setLink .sibling object first).bind fun _ => ?_
  refine (keeps_setLink .child destination object).bind fun _ => ?_
  exact keeps_setLink .parent object destination

theorem keeps_setAttribute (object number : Nat) : Keeps SameStatic (setAttribute object number) :=
  (keeps_query _).bind fun _ => (keeps_query _).bind fun _ => keeps_writeByte _ _

theorem keeps_clearAttribute (object number : Nat) :
    Keeps SameStatic (clearAttribute object number) :=
  (keeps_query _).bind fun _ => (keeps_query _).bind fun _ => keeps_writeByte _ _

theorem keeps_setProperty (object number : Nat) (value : UInt16) :
    Keeps SameStatic (setProperty object number value) := by
  refine (keeps_query _).bind fun _ => ?_
  refine (keeps_query _).bind fun property => ?_
  split
  · exact keeps_throw _
  · exact keeps_writeByte _ _
  · exact keeps_writeWord _ _
  · exact keeps_throw _

end Objects

section Text

theorem keeps_encodeText (address length offset coded : Nat) :
    Keeps SameStatic (encodeText address length offset coded) :=
  (keeps_query _).bind fun _ => (keeps_query _).bind fun _ => keeps_writeWords _ _

theorem keeps_writeCapture (capture : Capture) : Keeps SameStatic (writeCapture capture) :=
  (keeps_writeWord _ _).bind fun _ => keeps_writeBytes _ _

theorem keeps_writeToken (dictionary : Nat) (skipUnknown : Bool) (place : Nat) (word : Word) :
    Keeps SameStatic (writeToken dictionary skipUnknown place word) := by
  refine (keeps_query _).bind fun entry => ?_
  refine keeps_get.bind fun story => ?_
  refine Keeps.ite ?_ (keeps_pure ())
  refine (keeps_writeWord _ _).bind fun _ => ?_
  exact (keeps_writeByte _ _).bind fun _ => keeps_writeByte _ _

theorem keeps_writeTokens (dictionary : Nat) (skipUnknown : Bool) (place : Nat)
    (words : List Word) : Keeps SameStatic (writeTokens dictionary skipUnknown place words) := by
  induction words generalizing place with
  | nil => exact keeps_pure ()
  | cons word rest ih =>
    exact (keeps_writeToken dictionary skipUnknown place word).bind fun _ => ih (place + 4)

theorem keeps_writeLine (buffer : Nat) (line : List Zscii) :
    Keeps SameStatic (writeLine buffer line) := by
  refine (keeps_query _).bind fun capacity => ?_
  refine keeps_get.bind fun story => ?_
  exact (keeps_writeBytes _ _).ite (keeps_writeBytes _ _)

end Text

section Tables

theorem keeps_copyUp (source target count : Nat) :
    Keeps SameStatic (copyUp source target count) := by
  induction count generalizing source target with
  | zero => exact keeps_pure ()
  | succ count ih =>
    refine (keeps_query _).bind fun byte => ?_
    exact (keeps_writeByte target byte).bind fun _ => ih (source + 1) (target + 1)

theorem keeps_copyDown (source target count : Nat) :
    Keeps SameStatic (copyDown source target count) := by
  induction count with
  | zero => exact keeps_pure ()
  | succ count ih =>
    refine (keeps_query _).bind fun byte => ?_
    exact (keeps_writeByte (target + count) byte).bind fun _ => ih

theorem keeps_copyTable (source target : Nat) (size : Int) :
    Keeps SameStatic (copyTable source target size) := by
  refine Keeps.ite (keeps_writeBytes _ _) ?_
  exact (keeps_copyUp _ _ _).ite (keeps_copyDown _ _ _)

theorem keeps_popUserStack (table : Nat) : Keeps SameStatic (popUserStack table) := by
  refine (keeps_query _).bind fun slots => ?_
  refine (keeps_query _).bind fun value => ?_
  exact (keeps_writeWord _ _).bind fun _ => keeps_pure value

theorem keeps_dropUserStack (table : Nat) (count : UInt16) :
    Keeps SameStatic (dropUserStack table count) :=
  (keeps_query _).bind fun _ => keeps_writeWord _ _

theorem keeps_pushUserStack (table : Nat) (value : UInt16) :
    Keeps SameStatic (pushUserStack table value) := by
  refine (keeps_query _).bind fun slots => ?_
  refine Keeps.ite (keeps_pure false) ?_
  refine (keeps_writeWord _ _).bind fun _ => ?_
  exact (keeps_writeWord _ _).bind fun _ => keeps_pure true

end Tables

end Update

end StoryMachine
