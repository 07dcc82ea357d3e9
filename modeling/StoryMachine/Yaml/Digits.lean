/-! Numbers from their digits. -/

namespace StoryMachine.Yaml.Digits

/-- The value of a digit; letters go on after 9. -/
def value? (base : Nat) (digit : Char) : Option Nat :=
  let value :=
    if digit.isDigit then digit.toNat - '0'.toNat
    else if digit.isLower then digit.toNat - 'a'.toNat + 10
    else if digit.isUpper then digit.toNat - 'A'.toNat + 10
    else base
  if value < base then some value else none

/-- A number without a sign; it has at least one digit. -/
def natural? (base : Nat) (digits : List Char) : Option Nat :=
  if digits.isEmpty then none
  else
    digits.foldlM (fun total digit => return total * base + (← value? base digit)) 0

/-- The number that decimal digits stand for; it is zero if there are none. -/
def decimal (digits : List Char) : Nat :=
  (natural? 10 digits).getD 0

end StoryMachine.Yaml.Digits
