import Parley.Decimal.Exact
import Parley.Text.Digit

/-!
The shortest decimal that reads back as a given float. Of the decimals with the fewest significant digits that
do, it is the nearest to the float's exact value.
-/

namespace Parley.Decimal

/-- The number `digits * 10 ^ exponent`. -/
structure Numeral where
  digits : Nat
  exponent : Int
  deriving DecidableEq, Repr

def Numeral.toFloat (numeral : Numeral) : Float :=
  Float.ofScientific numeral.digits (numeral.exponent < 0) numeral.exponent.natAbs

/-- More decimal places than any positive float has leading zeros. -/
def deepest : Nat := 400

/-- The place of the decimal point: a positive fraction lies from `10 ^ (place - 1)` up to below `10 ^ place`. -/
def decimalPlace (numerator denominator : Nat) : Int :=
  (Text.natDigits (numerator * Nat.pow 10 deepest / denominator)).length - (deepest : Int)

/-- The two neighbours of a fraction among the multiples of `10 ^ exponent`, the nearer one first. -/
def neighbours (numerator denominator : Nat) (exponent : Int) : List Numeral :=
  let top := numerator * Nat.pow 10 (-exponent).toNat
  let bottom := denominator * Nat.pow 10 exponent.toNat
  let below := top / bottom
  let nearest := roundHalfEven top bottom
  let other := if nearest = below then below + 1 else below
  [⟨nearest, exponent⟩, ⟨other, exponent⟩]

def exactNumeral (mantissa : Nat) (exponent : Int) : Numeral :=
  if 0 ≤ exponent then ⟨mantissa * Nat.pow 2 exponent.toNat, 0⟩
  else ⟨mantissa * Nat.pow 5 (-exponent).toNat, exponent⟩

/-- The shortest decimal whose nearest float is `value`, for a positive finite `value` with the given mantissa and
exponent. Seventeen digits always suffice; the exact decimal stands behind them. -/
def shortestOf (value : Float) (mantissa : Nat) (exponent : Int) : Numeral :=
  let (numerator, denominator) := fraction mantissa exponent
  let place := decimalPlace numerator denominator
  let hit := (List.range 17).findSome? fun extra =>
    (neighbours numerator denominator (place - (extra + 1 : Nat))).find? fun numeral => numeral.toFloat = value
  hit.getD (exactNumeral mantissa exponent)

/-- The significant digits of a positive decimal without trailing zeros, and the place of its point: the number
is `0.digits` times ten to that power. -/
def Numeral.significant (numeral : Numeral) : List Char × Int :=
  let digits := Text.natDigits numeral.digits
  ((digits.reverse.dropWhile (· = '0')).reverse, numeral.exponent + digits.length)

end Parley.Decimal

