import StoryMachine.Config
import StoryMachine.Yaml.Document

/-! Settings from a configuration file. A setting that is not there, or has a value of another
kind, is as in the default settings. -/

namespace StoryMachine.Config

def policyOf (setting : Yaml) : Except Error ErrorPolicy :=
  match setting.text? with
  | none => .ok ({} : Config).errorPolicy
  | some name =>
    match ErrorPolicy.ofName? name with
    | some policy => .ok policy
    | none => .error (.unknownErrorPolicy name)

/-- Sizes of the screen above 255 are cut down to it. The interpreter's number and version lose
their upper bits. -/
def ofYaml (document : Yaml) : Except Error Config := do
  let defaults : Config := {}
  let number (key : String) (convert : Nat → UInt8) (default : UInt8) :=
    ((document.get key).natural?.map convert).getD default
  let atMost255 (value : Nat) := UInt8.ofNat (min value 255)
  let errorPolicy ← policyOf (document.get "error_handling")
  return {
    logging := (document.get "logging").text? = some "enabled"
    errorPolicy
    randomSeed :=
      ((document.get "random_seed").natural?.map UInt64.ofNat).getD defaults.randomSeed
    screenRows := number "screen_rows" atMost255 defaults.screenRows
    screenColumns := number "screen_columns" atMost255 defaults.screenColumns
    interpreterNumber := number "interpreter_number" UInt8.ofNat defaults.interpreterNumber
    interpreterVersion := number "interpreter_version" UInt8.ofNat defaults.interpreterVersion }

def ofText (text : String) : Except Error Config :=
  match Yaml.parse? text with
  | some document => ofYaml document
  | none => .error .malformedConfig

def ofFile (contents : Option ByteArray) : Except Error Config :=
  match contents with
  | none => .ok {}
  | some bytes =>
    match String.fromUTF8? bytes with
    | some text => ofText text
    | none => .error .malformedConfig

end StoryMachine.Config
