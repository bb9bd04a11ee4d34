/-!
# Double-precision numbers

A double is a sign and a magnitude `mantissa * 2 ^ exponent`, worked with in exact integer
arithmetic. `Double.ofRatio` rounds a ratio to the nearest double, ties to the even mantissa.
-/

namespace CustomProperties

/-- A double-precision number that is not a NaN. A mantissa has at most 53 bits, and as many
unless the exponent is the least one. -/
inductive Double where
  | finite (negative : Bool) (mantissa : Nat) (exponent : Int)
  | infinite (negative : Bool)
deriving DecidableEq, Repr, Inhabited

namespace Double

/-- The least exponent. -/
def minExponent : Int := -1074

/-- The greatest exponent. -/
def maxExponent : Int := 971

/-- Two to the number of bits of a full mantissa. -/
def mantissaBound : Nat := Nat.pow 2 53

/-- The number zero. -/
def zero (negative : Bool) : Double := finite negative 0 minExponent

/-- The quotient rounded to the nearest integer, ties to the even one. -/
def roundEven (num den : Nat) : Nat :=
  let quotient := num / den
  let rest := 2 * (num % den)
  if rest < den then quotient
  else if den < rest then quotient + 1
  else quotient + quotient % 2

/-- The ratio `num / den * base ^ power` as a numerator and a denominator. -/
def scale (base num den : Nat) (power : Int) : Nat × Nat :=
  if 0 ≤ power then (num * base.pow power.toNat, den) else (num, den * base.pow (-power).toNat)

/-- The exponent that leaves a full mantissa of a ratio, or the least one. -/
def exponentFor (num den : Nat) : Int :=
  let guess := (Nat.log2 num : Int) - Nat.log2 den - 53
  let ratio := scale 2 num den (-guess)
  let exponent := if ratio.1 < mantissaBound * ratio.2 then guess else guess + 1
  max exponent minExponent

/-- The double nearest to `num / den`. -/
def ofRatio (negative : Bool) (num den : Nat) : Double :=
  if num = 0 then zero negative
  else
    let exponent := exponentFor num den
    let ratio := scale 2 num den (-exponent)
    let mantissa := roundEven ratio.1 ratio.2
    let whole := if mantissa = mantissaBound then (mantissaBound / 2, exponent + 1)
      else (mantissa, exponent)
    if maxExponent < whole.2 then infinite negative else finite negative whole.1 whole.2

/-- The double nearest to a natural number. -/
def ofNat (n : Nat) : Double := ofRatio false n 1

/-- The double nearest to `digits * 10 ^ exponent`. -/
def ofDecimal (negative : Bool) (digits : Nat) (exponent : Int) : Double :=
  let length := (Nat.toDigits 10 digits).length
  if digits = 0 || exponent + length < -350 then zero negative
  else if 350 < exponent + length then infinite negative
  else
    let ratio := scale 10 digits 1 exponent
    ofRatio negative ratio.1 ratio.2

/-- The number with the other sign. -/
def neg : Double → Double
  | finite negative mantissa exponent => finite (!negative) mantissa exponent
  | infinite negative => infinite (!negative)

/-- Whether a number is zero, of either sign. -/
def isZero : Double → Bool
  | finite _ mantissa _ => mantissa == 0
  | infinite _ => false

/-- Whether a number is infinite. -/
def isInfinite : Double → Bool
  | finite .. => false
  | infinite _ => true

/-- The product of two numbers without signs, rounded. -/
def mul : Double → Double → Double
  | finite _ m e, finite _ n f =>
    let ratio := scale 2 (m * n) 1 (e + f)
    ofRatio false ratio.1 ratio.2
  | _, _ => infinite false

/-- The quotient of two numbers without signs, rounded. -/
def div : Double → Double → Double
  | finite _ m e, finite _ n f =>
    let ratio := scale 2 m n (e - f)
    ofRatio false ratio.1 ratio.2
  | infinite _, _ => infinite false
  | _, infinite _ => zero false

/-- The number with one more digit to a base behind it, rounded. -/
def appendDigit (x : Double) (base digit : Nat) : Double :=
  match x with
  | finite _ m e =>
    let ratio := scale 2 (m * base) 1 e
    ofRatio false (ratio.1 + digit * ratio.2) ratio.2
  | infinite negative => infinite negative

end Double

end CustomProperties
