import StoryMachine.Input.Basic

/-! Where input comes from: a log of responses, and a recorder that keeps a log of what another
source answers. -/

namespace StoryMachine

class InputSource (ι : Type) where
  read : InputRequest → ι → InputResponse × ι

structure InputLog where
  responses : List InputResponse := []
  deriving DecidableEq, Repr

def InputLog.record (log : InputLog) (response : InputResponse) : InputLog :=
  ⟨log.responses ++ [response]⟩

/-- A log answers with its responses in turn, and with nothing when it is used up. -/
instance : InputSource InputLog where
  read _ log :=
    match log.responses with
    | response :: rest => (response, ⟨rest⟩)
    | [] => ({}, log)

structure Recorder (ι : Type) where
  source : ι
  log : InputLog := {}

instance [InputSource ι] : InputSource (Recorder ι) where
  read request recorder :=
    let (response, source) := InputSource.read request recorder.source
    (response, ⟨source, recorder.log.record response⟩)

end StoryMachine
