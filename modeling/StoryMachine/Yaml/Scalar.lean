import StoryMachine.Yaml.Digits
import StoryMachine.Yaml.Double
import StoryMachine.Yaml.Tag

/-! The values that the words of a configuration file stand for, by the core rules of YAML 1.2. -/

namespace StoryMachine.Yaml

inductive Scalar where
  | null
  | bool (value : Bool)
  | integer (value : Int)
  | real (value : Double)
  | text (value : String)
  deriving DecidableEq, Repr

namespace Scalar

def isNull (word : String) : Bool :=
  word ∈ ["~", "null", "Null", "NULL"]

def bool? (word : String) : Option Bool :=
  if word ∈ ["true", "True", "TRUE"] then some true
  else if word ∈ ["false", "False", "FALSE"] then some false
  else none

/-! ### Integers -/

/-- A decimal, hexadecimal, octal or binary number. A decimal number has no leading zeros. -/
def unsigned? : List Char → Option Nat
  | '0' :: 'x' :: digits => Digits.natural? 16 digits
  | '0' :: 'o' :: digits => Digits.natural? 8 digits
  | '0' :: 'b' :: digits => Digits.natural? 2 digits
  | '0' :: _ :: _ => none
  | digits => Digits.natural? 10 digits

def integer? : List Char → Option Int
  | '+' :: digits => (unsigned? digits).map Int.ofNat
  | '-' :: digits => (unsigned? digits).map fun value => -Int.ofNat value
  | digits => (unsigned? digits).map Int.ofNat

/-- Does a value fit in `bits` bits, with a sign if it is negative? -/
def fits (bits : Nat) (value : Int) : Bool :=
  -Int.ofNat (1 <<< (bits - 1)) ≤ value ∧ value < Int.ofNat (1 <<< bits)

/-! ### Real numbers -/

def dropSign : List Char → List Char
  | '+' :: rest | '-' :: rest => rest
  | rest => rest

/-- The size of an exponent. It stops growing when it is far beyond those of double precision. -/
def exponentSize (digits : List Char) : Nat :=
  digits.foldl
    (fun total digit => if total < 0x10000 then 10 * total + Digits.decimal [digit] else total) 0

/-- The power of ten after the letter `e`. -/
def exponent? : List Char → Option Int
  | [] => some 0
  | mark :: digits =>
    let size := dropSign digits
    if (mark = 'e' ∨ mark = 'E') ∧ size ≠ [] ∧ size.all Char.isDigit then
      some (if digits.head? = some '-' then -Int.ofNat (exponentSize size) else exponentSize size)
    else none

/-- Digits with a point or an exponent or both, or neither, as a number and a power of ten. -/
def decimal? (text : List Char) : Option (Nat × Int) := do
  let (whole, rest) := text.span Char.isDigit
  let (fraction, rest) :=
    match rest with
    | '.' :: digits => digits.span Char.isDigit
    | _ => ([], rest)
  if whole.isEmpty ∧ fraction.isEmpty then none
  let exponent ← exponent? rest
  return (Digits.decimal (whole ++ fraction), exponent - fraction.length)

/-- A real number. One that is too great for double precision is none. -/
def real? (word : String) : Option Double :=
  let size := dropSign word.toList
  let isNegative : Bool := word.toList.head? = some '-'
  if String.ofList size ∈ [".inf", ".Inf", ".INF"] then some (.infinite isNegative)
  else if word ∈ [".nan", ".NaN", ".NAN"] then some .notANumber
  else do
    let (digits, scale) ← decimal? size
    Double.ofDecimal? isNegative digits scale

/-- Zeros before other digits make a number a text. -/
def isPadded (word : String) : Bool :=
  let size := dropSign word.toList
  1 < size.length ∧ size.head? = some '0' ∧ size.all Char.isDigit

/-! ### Words and texts -/

/-- An integer of 64 bits. One of up to 128 bits is refused; any other word has the other value. -/
def integerOr? (word : String) (other : Option Scalar) : Option Scalar :=
  match integer? word.toList with
  | some value =>
    if fits 64 value then some (.integer value) else if fits 128 value then none else other
  | none => other

def ofPlain? (word : String) : Option Scalar :=
  if word.isEmpty ∨ isNull word then some .null
  else
    match bool? word with
    | some value => some (.bool value)
    | none =>
      integerOr? word
        (some (match if isPadded word then none else real? word with
          | some value => .real value
          | none => .text word))

/-- The value of a word or of a text, by its tag if it has one. -/
def of? (tag : Option Tag) (isPlain : Bool) (word : String) : Option Scalar :=
  match tag with
  | none | some (.custom _) => if isPlain then ofPlain? word else some (.text word)
  | some .null => if isNull word then some .null else none
  | some .bool => (bool? word).map .bool
  | some .integer => integerOr? word none
  | some .real => (real? word).map .real
  | some .other => some (.text word)

end Scalar

end StoryMachine.Yaml
