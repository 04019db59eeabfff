/-!
# Double-precision numbers

Documents carry numbers with a fraction or an exponent as binary floating-point numbers of 53
significant bits. They are kept by sign, significand and exponent, so that reading, writing and
comparing them are exact operations on integers.
-/

namespace Toolsmith

/-- A double-precision number. A finite one is the significand times two to the exponent; the
significand has 53 bits, or fewer with the least exponent -1074. -/
inductive Binary64 where
  | nan
  | infinite (negative : Bool)
  | finite (negative : Bool) (significand : Nat) (exponent : Int)
deriving DecidableEq, Repr, Inhabited

namespace Binary64

/-- Zero of the given sign. -/
def zero (negative : Bool) : Binary64 :=
  finite negative 0 (-1074)

/-- Whether the number is a zero of either sign. -/
def isZero : Binary64 → Bool
  | finite _ significand _ => significand == 0
  | _ => false

/-- Two to the power of 52, the least significand of 53 bits. -/
def leastFull : Nat := 4503599627370496

/-- The fraction `num / den` divided by `base` to `exponent`, as numerator and denominator. -/
def scaledBy (base num den : Nat) (exponent : Int) : Nat × Nat :=
  let power := Nat.pow base exponent.natAbs
  if exponent < 0 then (num * power, den) else (num, den * power)

/-- The fraction `num / den` divided by two to `exponent`. -/
def scaled (num den : Nat) (exponent : Int) : Nat × Nat :=
  scaledBy 2 num den exponent

/-- `num / den` rounded to the nearest integer, a half to the even one. -/
def roundDiv (num den : Nat) : Nat :=
  let quotient := num / den
  let rest := num % den
  if 2 * rest < den || (2 * rest == den && quotient % 2 == 0) then quotient else quotient + 1

/-- The exponent with which the fraction has 53 bits before the point, but not below -1074. -/
def exponentFor (num den : Nat) : Int :=
  let guess : Int := (Nat.log2 num : Int) - Nat.log2 den - 52
  let (a, b) := scaled num den guess
  let exact := if a / b < leastFull then guess - 1 else guess
  max exact (-1074)

/-- The double nearest to `num / den`, a half to the even significand; infinite beyond the largest
one. The denominator is positive. -/
def ofFraction (negative : Bool) (num den : Nat) : Binary64 :=
  if num = 0 then
    zero negative
  else
    let exponent := exponentFor num den
    let (a, b) := scaled num den exponent
    let significand := roundDiv a b
    let (significand, exponent) :=
      if significand = 2 * leastFull then (leastFull, exponent + 1) else (significand, exponent)
    if 971 < exponent then infinite negative else finite negative significand exponent

/-- The double nearest to `digits` times ten to `exponent`. Beyond 310 places before the point
or 330 zeros after it the power is not computed: the result is infinite or zero. -/
def ofDecimal (negative : Bool) (digits : Nat) (exponent : Int) : Binary64 :=
  if digits = 0 then
    zero negative
  else
    let places : Int := (Nat.toDigits 10 digits).length + exponent
    if 310 < places then infinite negative
    else if places < -330 then zero negative
    else
      let (num, den) := scaledBy 10 digits 1 (-exponent)
      ofFraction negative num den

/-- Whether the number equals an integer. -/
def equalsInt : Binary64 → Int → Bool
  | finite negative significand exponent, n =>
    let (num, den) := scaled significand 1 (-exponent)
    let signed : Int := if negative then -num else num
    signed == n * den
  | _, _ => false

/-- Numeric equality: the two zeros are equal, and an undefined number equals nothing. -/
def equals : Binary64 → Binary64 → Bool
  | nan, _ => false
  | _, nan => false
  | a, b => a == b || (a.isZero && b.isZero)

end Binary64

end Toolsmith
