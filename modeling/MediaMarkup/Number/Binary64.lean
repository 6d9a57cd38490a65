/-!
Floating point numbers of 64 bits as exact data. A decimal is read as the nearest of them, ties
going to the even significand, and two of them are compared as the numbers that they stand for.
-/

namespace MediaMarkup

/-- Either `significand * 2 ^ exponent` with a sign, or an infinity. -/
inductive Binary64
  | finite (negative : Bool) (significand : Nat) (exponent : Int)
  | infinite (negative : Bool)
  deriving DecidableEq, Repr

namespace Binary64

/-- The least exponent; every other exponent has a significand of 53 bits. -/
def leastExponent : Int := -1074

def greatestExponent : Int := 971

/-- The least significand of 53 bits. -/
def leastNormal : Nat := Nat.pow 2 52

/-- The fraction `numerator / denominator` divided by `base ^ exponent`. -/
def scaleDown (base numerator denominator : Nat) (exponent : Int) : Nat × Nat :=
  if 0 ≤ exponent then (numerator, denominator * Nat.pow base exponent.toNat)
  else (numerator * Nat.pow base (-exponent).toNat, denominator)

/-- The nearest whole number to a fraction, the even one of two. -/
def roundEven (numerator denominator : Nat) : Nat :=
  let quotient := numerator / denominator
  let twice := 2 * (numerator % denominator)
  if twice < denominator then quotient
  else if denominator < twice then quotient + 1
  else quotient + quotient % 2

/-- The exponent that leaves 53 bits before the point, or the least one. -/
def exponentFor (numerator denominator : Nat) : Int :=
  let guess : Int := (numerator.log2 : Int) - denominator.log2 - 52
  let (scaled, unit) := scaleDown 2 numerator denominator guess
  max leastExponent (if scaled / unit < leastNormal then guess - 1 else guess)

/-- The number nearest to a fraction. -/
def nearest (negative : Bool) (numerator denominator : Nat) : Binary64 :=
  if numerator = 0 then .finite negative 0 leastExponent
  else
    let exponent := exponentFor numerator denominator
    let (scaled, unit) := scaleDown 2 numerator denominator exponent
    let significand := roundEven scaled unit
    let (significand, exponent) :=
      if significand = 2 * leastNormal then (leastNormal, exponent + 1) else (significand, exponent)
    if greatestExponent < exponent then .infinite negative
    else .finite negative significand exponent

/-- The number nearest to `digits * 10 ^ exponent`. Beyond 400 places on either side of the point
the answer is an infinity or zero, and the power is not computed. -/
def ofDecimal (negative : Bool) (digits : Nat) (exponent : Int) : Binary64 :=
  let places : Int := (Nat.toDigits 10 digits).length + exponent
  if digits = 0 || places < -400 then nearest negative 0 1
  else if 400 < places then .infinite negative
  else
    let (numerator, denominator) := scaleDown 10 digits 1 (-exponent)
    nearest negative numerator denominator

def isZero : Binary64 → Bool
  | .finite _ significand _ => significand == 0
  | .infinite _ => false

def signed (negative : Bool) (n : Nat) : Int :=
  if negative then -(n : Int) else n

/-- Whether a number stands for an integer. -/
def sameInt (n : Int) : Binary64 → Bool
  | .finite negative significand exponent =>
    signed negative (significand * Nat.pow 2 exponent.toNat) == n * Nat.pow 2 (-exponent).toNat
  | .infinite _ => false

/-- Equality as numbers: both zeros are equal. -/
def same : Binary64 → Binary64 → Bool
  | .finite sign m e, .finite sign' m' e' =>
    let low := min e e'
    signed sign (m * Nat.pow 2 (e - low).toNat) == signed sign' (m' * Nat.pow 2 (e' - low).toNat)
  | .infinite sign, .infinite sign' => sign == sign'
  | _, _ => false

end Binary64

end MediaMarkup
