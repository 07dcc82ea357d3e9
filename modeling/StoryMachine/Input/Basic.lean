import StoryMachine.Text.Zscii

/-! Input: what a story asks for, what the player answers, and the clock of a timed read. -/

namespace StoryMachine

/-- A length of time to the nanosecond. Its whole seconds are a 64-bit number. -/
structure Duration where
  nanoseconds : Nat
  bounded : nanoseconds < 0x10000000000000000 * 1000000000
  deriving DecidableEq, Repr

namespace Duration

def zero : Duration :=
  ⟨0, by decide⟩

instance : LE Duration where
  le first second := first.nanoseconds ≤ second.nanoseconds

instance (first second : Duration) : Decidable (first ≤ second) :=
  inferInstanceAs (Decidable (first.nanoseconds ≤ second.nanoseconds))

def ofMilliseconds (count : UInt64) : Duration :=
  ⟨count.toNat * 1000000, by have := count.toNat_lt; omega⟩

/-- A number of nanoseconds as a duration, unless it is too large. -/
def ofNanoseconds? (count : Nat) : Option Duration :=
  if bounded : count < 0x10000000000000000 * 1000000000 then some ⟨count, bounded⟩ else none

def add? (first second : Duration) : Option Duration :=
  ofNanoseconds? (first.nanoseconds + second.nanoseconds)

/-- What is left of the first after the second, down to zero. -/
def monus (first second : Duration) : Duration :=
  ⟨first.nanoseconds - second.nanoseconds, Nat.lt_of_le_of_lt (Nat.sub_le _ _) first.bounded⟩

end Duration

inductive SpecialKey where
  | delete
  | escape
  | cursorUp
  | cursorDown
  | cursorLeft
  | cursorRight
  | function (number : UInt8)
  | keypad (number : UInt8)
  deriving DecidableEq, Repr

/-- Function keys run from 1 to 12 and keypad digits from 0 to 9; a number outside is taken to
the nearest. -/
def SpecialKey.zscii : SpecialKey → Zscii
  | delete => 8
  | escape => 27
  | cursorUp => 129
  | cursorDown => 130
  | cursorLeft => 131
  | cursorRight => 132
  | function number => 132 + min (max number.toUInt16 1) 12
  | keypad number => 145 + min number.toUInt16 9

inductive InputValue where
  | character (code : Zscii)
  | mouseClick (column row : UInt16)
  | special (key : SpecialKey)
  deriving DecidableEq, Repr

def InputValue.zscii : InputValue → Zscii
  | character code => code
  | mouseClick _ _ => 254
  | special key => key.zscii

inductive InputKind where
  | line
  | character
  deriving DecidableEq, Repr

structure InputRequest where
  kind : InputKind
  maxLength : Nat
  /-- The text that the line starts with. -/
  preloaded : List Zscii
  /-- Codes that end a line, apart from the new line. -/
  terminators : List Zscii
  /-- Tenths of a second until the routine is called. -/
  timeout : UInt16
  /-- The address of the routine to call on a timeout. -/
  routine : Nat
  /-- Should the line so far be shown again? -/
  redraw : Bool := false
  deriving DecidableEq, Repr

namespace InputRequest

def line (maxLength : Nat) (preloaded terminators : List Zscii) (timeout : UInt16)
    (routine : Nat) : InputRequest :=
  { kind := .line, maxLength, preloaded, terminators, timeout, routine }

def character (timeout : UInt16) (routine : Nat) : InputRequest :=
  { kind := .character, maxLength := 1, preloaded := [], terminators := [], timeout, routine }

/-- The time until the routine is called, if the read is timed. -/
def timeoutDuration? (request : InputRequest) : Option Duration :=
  if request.timeout ≠ 0 ∧ request.routine ≠ 0 then
    some (.ofMilliseconds (request.timeout.toUInt64 * 100))
  else none

def isFunctionKey (code : Zscii) : Bool :=
  (129 ≤ code ∧ code ≤ 154) ∨ (252 ≤ code ∧ code ≤ 254)

/-- Does a code end the input? The terminator 255 stands for every function key. -/
def isTerminator (request : InputRequest) (code : Zscii) : Bool :=
  match request.kind with
  | .character => true
  | .line =>
    code = Zscii.newLine ∨ code ∈ request.terminators ∨
      (255 ∈ request.terminators ∧ isFunctionKey code)

/-- The request again after an interruption, with the line so far. -/
def resume (request : InputRequest) (input : List Zscii) : InputRequest :=
  { request with preloaded := input, redraw := true }

end InputRequest

structure InputResponse where
  values : List InputValue := []
  elapsed : Duration := .zero
  /-- The part of the elapsed time that does not count. -/
  paused : Duration := .zero
  deriving DecidableEq, Repr

namespace InputResponse

/-- Text followed by a new line. Characters past 16 bits lose their upper part. -/
def ofText (text : String) : InputResponse :=
  { values := (Zscii.ofString text ++ [Zscii.newLine]).map .character }

def counted (response : InputResponse) : Duration :=
  response.elapsed.monus response.paused

/-- No input and no time passed: the source has run dry. -/
def isEmpty (response : InputResponse) : Bool :=
  response.values = [] ∧ response.elapsed = .zero

end InputResponse

/-- The time counted so far in a read, timed or not. -/
structure InputTimer where
  accumulated : Duration := .zero
  deriving DecidableEq, Repr

/-- Count the time of a response. When the timeout is reached, start again and say so. There is
no answer if the time counted overflows, whether or not there is a timeout to reach. -/
def InputTimer.tick (timer : InputTimer) (response : InputResponse) (timeout : Option Duration) :
    Option (Bool × InputTimer) :=
  (timer.accumulated.add? response.counted).map fun accumulated =>
    match timeout with
    | some limit => if limit ≤ accumulated then (true, {}) else (false, ⟨accumulated⟩)
    | none => (false, ⟨accumulated⟩)

end StoryMachine
