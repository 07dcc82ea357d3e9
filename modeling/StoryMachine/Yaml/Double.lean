/-! Numbers of double precision: 53 binary digits and a bounded exponent. -/

namespace StoryMachine.Yaml

/-- A number of double precision. The two zeros are one, and what is not a number equals itself. -/
inductive Double where
  | notANumber
  | infinite (isNegative : Bool)
  /-- A whole number times a power of two. A number other than zero has a significand of 53 binary
  digits, or fewer if the exponent is the least one. -/
  | finite (significand exponent : Int)
  deriving DecidableEq, Repr

namespace Double

def leastExponent : Int := -1074

def greatestExponent : Int := 971

def zero : Double := finite 0 leastExponent

/-- A quotient to the nearest whole number, and from the middle to the even one. -/
def roundedQuotient (numerator denominator : Nat) : Nat :=
  let quotient := numerator / denominator
  let rest := 2 * (numerator % denominator)
  if denominator < rest ∨ (rest = denominator ∧ quotient % 2 = 1) then quotient + 1 else quotient

/-- The greatest exponent of a power of two that is at most a quotient of positive numbers. -/
def quotientLog (numerator denominator : Nat) : Int :=
  let guess : Int := numerator.log2 - denominator.log2
  let isBelow :=
    if 0 ≤ guess then numerator < denominator <<< guess.toNat
    else numerator <<< (-guess).toNat < denominator
  if isBelow then guess - 1 else guess

/-- The number nearest to a quotient of positive numbers, if it is not too great. -/
def ofQuotient? (isNegative : Bool) (numerator denominator : Nat) : Option Double :=
  let exponent := max (quotientLog numerator denominator - 52) leastExponent
  let rounded :=
    if 0 ≤ exponent then roundedQuotient numerator (denominator <<< exponent.toNat)
    else roundedQuotient (numerator <<< (-exponent).toNat) denominator
  let (significand, exponent) :=
    if rounded = 1 <<< 53 then (1 <<< 52, exponent + 1) else (rounded, exponent)
  if greatestExponent < exponent then none
  else some (finite (if isNegative then -Int.ofNat significand else significand) exponent)

/-- The number nearest to some digits times a power of ten. Far below the least number it is zero,
and far above the greatest there is none. -/
def ofDecimal? (isNegative : Bool) (digits : Nat) (scale : Int) : Option Double :=
  if digits = 0 ∨ scale + digits.log2 < -400 then some zero
  else if 400 < scale then none
  else if 0 ≤ scale then ofQuotient? isNegative (digits * Nat.pow 10 scale.toNat) 1
  else ofQuotient? isNegative digits (Nat.pow 10 (-scale).toNat)

end Double

end StoryMachine.Yaml
