import Parley.Decimal.Written

namespace Parley

inductive Number where
  | int (value : Int)
  | float (value : Float)
  deriving DecidableEq, Repr

namespace Number

instance (n : Nat) : OfNat Number n := ⟨.int n⟩

def toFloat : Number → Float
  | .int value => Float.ofInt value
  | .float value => value

/-- The least magnitude from which on an integer rounds to no float. -/
def floatBound : Nat := Nat.pow 2 1024 - Nat.pow 2 970

def hasFloat : Number → Bool
  | .int value => value.natAbs < floatBound
  | .float _ => true

def isZero : Number → Bool
  | .int value => value == 0
  | .float value => value == 0.0

/-- The sum of two integers is an integer; any other sum is a float. -/
def add : Number → Number → Number
  | .int left, .int right => .int (left + right)
  | left, right => .float (left.toFloat + right.toFloat)

instance : Add Number := ⟨add⟩

/-- Whether two numbers have a sum: an integer out of the range of floats cannot be added to a float. -/
def canAdd : Number → Number → Bool
  | .int _, .int _ => true
  | left, right => left.hasFloat && right.hasFloat

def written (style : Decimal.Style) : Number → String
  | .int value => Text.intText value
  | .float value => Decimal.full style value

def text (number : Number) : String := number.written .plain

end Number

/-- The integer part of a float, or nothing when it has none. -/
def truncate? (x : Float) : Option Int :=
  match Decimal.Reading.ofFloat x with
  | .finite negative mantissa exponent =>
      let (numerator, denominator) := Decimal.fraction mantissa exponent
      some (if negative then -(numerator / denominator : Nat) else (numerator / denominator : Nat))
  | _ => none

end Parley

