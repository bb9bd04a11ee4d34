import CustomProperties.Decimal.Double

/-!
# The shortest decimal that reads back

Of the decimals that round to a double, `Double.shortest` finds one with the fewest digits, and of
those the nearest. Which way an exact tie goes is left to the format that is written.
-/

namespace CustomProperties

/-- A decimal number `digits * 10 ^ exponent`. -/
structure Decimal where
  digits : Nat
  exponent : Int
deriving DecidableEq, Repr, Inhabited

/-- Which of two decimals equally near is taken. -/
inductive Tie where
  | even
  | up
deriving DecidableEq, Repr

namespace Decimal

/-- Strip zeros off the end of the digits. There are at most `n`. -/
def strip : Nat → Decimal → Decimal
  | 0, d => d
  | n + 1, d => if d.digits ≠ 0 ∧ d.digits % 10 = 0 then strip n ⟨d.digits / 10, d.exponent + 1⟩ else d

/-- The digits as characters. -/
def characters (d : Decimal) : List Char := Nat.toDigits 10 d.digits

/-- How many digits stand before the point; negative for zeros right after it. -/
def pointPosition (d : Decimal) : Int := d.characters.length + d.exponent

/-- The decimal without an exponent: `120`, `1.2`, `0.012`. -/
def positional (d : Decimal) : String :=
  let digits := d.characters
  if 0 ≤ d.exponent then String.ofList (digits ++ List.replicate d.exponent.toNat '0')
  else if 0 < d.pointPosition then
    let (whole, fraction) := digits.splitAt d.pointPosition.toNat
    String.ofList (whole ++ '.' :: fraction)
  else
    String.ofList ('0' :: '.' :: List.replicate (-d.pointPosition).toNat '0' ++ digits)

/-- The decimal with one digit before the point and a signed exponent: `1.2e+21`. -/
def scientific (d : Decimal) : String :=
  let power := d.pointPosition - 1
  let mantissa := match d.characters with
    | [] => []
    | [digit] => [digit]
    | digit :: fraction => digit :: '.' :: fraction
  String.ofList mantissa ++ (if power < 0 then "e-" else "e+") ++ toString power.natAbs

end Decimal

namespace Double

/-- The numbers that round to a double, as three numerators over one denominator: the lower end,
the double itself, and the upper end. -/
structure Neighbourhood where
  low : Nat
  value : Nat
  high : Nat
  denominator : Nat
  /-- Whether the ends round to the double too. -/
  closed : Bool

/-- The neighbourhood of `mantissa * 2 ^ exponent`. -/
def neighbourhood (mantissa : Nat) (exponent : Int) : Neighbourhood :=
  let below := if mantissa = mantissaBound / 2 ∧ minExponent < exponent then 1 else 2
  let unit := scale 2 1 4 exponent
  ⟨(4 * mantissa - below) * unit.1, 4 * mantissa * unit.1, (4 * mantissa + 2) * unit.1, unit.2,
    mantissa % 2 == 0⟩

/-- Whether `digits * 10 ^ exponent` lies in a neighbourhood. -/
def Neighbourhood.holds (n : Neighbourhood) (exponent : Int) (digits : Nat) : Bool :=
  let (num, den) := scale 10 digits 1 exponent
  let number := num * n.denominator
  if n.closed then n.low * den ≤ number && number ≤ n.high * den
  else n.low * den < number && number < n.high * den

/-- The greatest `p` with `10 ^ p` at most `num / den`, searched upwards from `guess`. -/
def powerOfTen (num den : Nat) : Nat → Int → Int
  | 0, guess => guess
  | n + 1, guess =>
    let (tens, ones) := scale 10 1 1 (guess + 1)
    if tens * den ≤ num * ones then powerOfTen num den n (guess + 1) else guess

/-- The decimal of the neighbourhood on the grid of multiples of `10 ^ exponent` that is nearest to
the double, if there is one. -/
def Neighbourhood.nearest? (n : Neighbourhood) (tie : Tie) (exponent : Int) : Option Decimal :=
  let (num, den) := scale 10 n.value n.denominator (-exponent)
  let below := num / den
  let distance := compare (2 * (num % den)) den
  let upper := match distance, tie with
    | .lt, _ => false
    | .gt, _ => true
    | .eq, .up => true
    | .eq, .even => below % 2 == 1
  let first := if upper then below + 1 else below
  let second := if upper then below else below + 1
  if n.holds exponent first then some ⟨first, exponent⟩
  else if n.holds exponent second then some ⟨second, exponent⟩
  else none

/-- The shortest decimal of a neighbourhood, with at least `17 - n` digits. -/
def Neighbourhood.shortest (n : Neighbourhood) (tie : Tie) (power : Int) : Nat → Decimal
  | 0 => (n.nearest? tie (power - 16)).getD ⟨0, 0⟩
  | k + 1 => (n.nearest? tie (power - 16 + (k + 1))).getD (shortest n tie power k)

/-- The shortest decimal that rounds to `mantissa * 2 ^ exponent`, and of those the nearest. -/
def shortest (tie : Tie) (mantissa : Nat) (exponent : Int) : Decimal :=
  if mantissa = 0 then ⟨0, 0⟩
  else
    let n := neighbourhood mantissa exponent
    let guess := (Nat.log2 mantissa + exponent) * 30103 / 100000 - 1
    let power := powerOfTen n.value n.denominator 4 guess
    (n.shortest tie power 16).strip 20

/-- A number without an exponent, as short as it can be: `5`, `0.1`, `-0`, `inf`. -/
def positional (x : Double) : String :=
  match x with
  | infinite negative => if negative then "-inf" else "inf"
  | finite negative mantissa exponent =>
    (if negative then "-" else "") ++ (shortest .up mantissa exponent).positional

end Double

end CustomProperties
