import Toolsmith.Number.Binary64
import Toolsmith.Text.Basic

/-!
# Shortest decimal texts

A double is written with the fewest significant digits that read back as the same double, and
among those with the digits nearest to its value. Everything is exact arithmetic on naturals.
-/

namespace Toolsmith

/-- A positive decimal: `digits` times ten to `exponent`. -/
structure Decimal where
  digits : Nat
  exponent : Int
deriving DecidableEq, Repr

namespace Decimal

/-- The decimal without the zeros at the end of its digits; `fuel` bounds their number. -/
def trimZeros : Nat → Decimal → Decimal
  | 0, d => d
  | fuel + 1, d =>
    if d.digits % 10 = 0 ∧ d.digits ≠ 0 then
      trimZeros fuel ⟨d.digits / 10, d.exponent + 1⟩
    else
      d

end Decimal

namespace Binary64

/-- The fraction `num / den` divided by ten to `exponent`. -/
def decimalScaled (num den : Nat) (exponent : Int) : Nat × Nat :=
  scaledBy 10 num den exponent

/-- The quarter units by which the nearest lower double, halfway, lies below: a power of two has
a neighbour at half the usual distance. -/
def lowerGap (significand : Nat) (exponent : Int) : Nat :=
  if significand = leastFull ∧ -1074 < exponent then 1 else 2

/-- Whether a decimal reads back as the double `significand · 2 ^ exponent`: it lies between the
halfway points to the neighbours, which belong to an even significand. -/
def readsBack (significand : Nat) (exponent : Int) (d : Decimal) : Bool :=
  let (low, lowDen) := scaled (4 * significand - lowerGap significand exponent) 1 (2 - exponent)
  let (high, highDen) := scaled (4 * significand + 2) 1 (2 - exponent)
  let (num, den) := decimalScaled d.digits 1 (-d.exponent)
  if significand % 2 = 0 then
    low * den ≤ num * lowDen && num * highDen ≤ high * den
  else
    low * den < num * lowDen && num * highDen < high * den

/-- The number of places before the decimal point of `num / den`, or minus the number of zeros
after it: the exponent `p` with `10 ^ (p - 1) ≤ num / den < 10 ^ p`, looked for upwards. -/
def placesFrom (num den : Nat) : Nat → Int → Int
  | 0, p => p
  | fuel + 1, p =>
    let (a, b) := decimalScaled num den p
    if a < b then p else placesFrom num den fuel (p + 1)

/-- Of the two neighbours with `count` digits, the one that reads back and is nearer. -/
def withDigits? (significand : Nat) (exponent : Int) (num den : Nat) (places : Int) (count : Nat) :
    Option Decimal :=
  let step := places - count
  let (a, b) := decimalScaled num den step
  let below : Decimal := ⟨a / b, step⟩
  let above : Decimal := ⟨a / b + 1, step⟩
  let rest := a % b
  let belowFits := readsBack significand exponent below
  let aboveFits := readsBack significand exponent above
  if belowFits && aboveFits then
    if 2 * rest < b || (2 * rest == b && below.digits % 2 == 0) then some below else some above
  else if belowFits then some below
  else if aboveFits then some above
  else none

/-- The shortest decimal that reads back as the positive double `significand · 2 ^ exponent`. -/
def shortest (significand : Nat) (exponent : Int) : Decimal :=
  let (num, den) := scaled significand 1 (-exponent)
  let start : Int := ((Nat.log2 significand : Int) + exponent) * 3 / 10 - 2
  let places := placesFrom num den 40 start
  let found := (List.range 17).findSome? fun k =>
    withDigits? significand exponent num den places (k + 1)
  (found.getD ⟨significand, 0⟩).trimZeros 20

/-- How a format writes the numbers that are not finite. -/
structure Spelling where
  nan : String
  infinity : String

/-- Writes digits with the point `point` places after the first digit's left side: positionally
up to 16 places before the point and 4 zeros after it, else with an exponent of at least two
digits. A number without a fraction keeps one zero after the point when written positionally. -/
def layout (digits : Text) (point : Int) : Text :=
  let zeros (n : Nat) : Text := List.replicate n (.char '0')
  let dot : CodePoint := .char '.'
  if -4 < point && point ≤ 16 then
    if point ≤ 0 then
      .char '0' :: dot :: zeros point.natAbs ++ digits
    else
      let whole := point.natAbs
      if digits.length ≤ whole then
        digits ++ zeros (whole - digits.length) ++ [dot, .char '0']
      else
        digits.take whole ++ dot :: digits.drop whole
  else
    let power := point - 1
    let mantissa := if digits.length ≤ 1 then digits else digits.take 1 ++ dot :: digits.drop 1
    let size := Text.ofNat power.natAbs
    mantissa ++ [.char 'e', .char (if power < 0 then '-' else '+')] ++
      zeros (2 - size.length) ++ size

/-- The text of a double. -/
def render (spelling : Spelling) : Binary64 → Text
  | nan => .ofString spelling.nan
  | infinite negative => sign negative ++ Text.ofString spelling.infinity
  | finite negative significand exponent =>
    if significand = 0 then
      sign negative ++ Text.ofString "0.0"
    else
      let d := shortest significand exponent
      let digits := Text.ofNat d.digits
      sign negative ++ layout digits (d.exponent + digits.length)
where
  /-- A minus sign before a negative number. -/
  sign (negative : Bool) : Text := if negative then [.char '-'] else []

end Binary64

end Toolsmith
