import Parley.Decimal.Shortest

namespace Parley.Decimal

/-- How a float is written in full: positionally while the point's place lies within two bounds, else with an
exponent of a least width. -/
structure Style where
  leastPlace : Int
  greatestPlace : Int
  exponentMark : Char
  exponentWidth : Nat
  infinity : String
  undefined : String

def Style.plain : Style := ⟨-3, 16, 'e', 2, "inf", "nan"⟩

/-- Texts for the wire, which names the special values by words of its own. -/
def Style.wire : Style := { Style.plain with infinity := "Infinity", undefined := "NaN" }

/-- Digits with a point at the given place, and at least one digit on either side of it. -/
def positional (digits : List Char) (place : Int) : List Char :=
  if place ≤ 0 then '0' :: '.' :: List.replicate (-place).toNat '0' ++ digits
  else if place.toNat < digits.length then digits.take place.toNat ++ '.' :: digits.drop place.toNat
  else digits ++ List.replicate (place.toNat - digits.length) '0' ++ ['.', '0']

def withExponent (style : Style) (digits : List Char) (place : Int) : List Char :=
  let power := place - 1
  let width := Text.natDigits power.natAbs
  digits.take 1 ++ (if digits.length ≤ 1 then [] else '.' :: digits.drop 1) ++
    style.exponentMark :: (if power < 0 then '-' else '+') ::
      (List.replicate (style.exponentWidth - width.length) '0' ++ width)

def magnitude (style : Style) (value : Float) (mantissa : Nat) (exponent : Int) : List Char :=
  let (digits, place) := (shortestOf value mantissa exponent).significant
  if style.leastPlace ≤ place && place ≤ style.greatestPlace then positional digits place
  else withExponent style digits place

def signed (negative : Bool) (text : List Char) : String :=
  String.ofList (if negative then '-' :: text else text)

def full (style : Style) (x : Float) : String :=
  match Reading.ofFloat x with
  | .undefined => style.undefined
  | .infinite negative => signed negative style.infinity.toList
  | .finite negative 0 _ => signed negative ['0', '.', '0']
  | .finite negative mantissa exponent =>
      signed negative (magnitude style (if negative then -x else x) mantissa exponent)

def pointed (places units : Nat) : List Char :=
  let digits := Text.natDigits units
  let padded := List.replicate (places + 1 - digits.length) '0' ++ digits
  let whole := padded.length - places
  padded.take whole ++ (if places = 0 then [] else '.' :: padded.drop whole)

/-- The number of units of `10 ^ -places` nearest to a magnitude, a half going to the even neighbour. -/
def unitsOf (places mantissa : Nat) (exponent : Int) : Nat :=
  let (numerator, denominator) := fraction mantissa exponent
  roundHalfEven (numerator * Nat.pow 10 places) denominator

def fixed (places : Nat) (x : Float) : String :=
  match Reading.ofFloat x with
  | .undefined => Style.plain.undefined
  | .infinite negative => signed negative Style.plain.infinity.toList
  | .finite negative mantissa exponent => signed negative (pointed places (unitsOf places mantissa exponent))

def rounded (places : Nat) (x : Float) : Float :=
  match Reading.ofFloat x with
  | .finite negative mantissa exponent =>
      let value := Float.ofScientific (unitsOf places mantissa exponent) true places
      if negative then -value else value
  | _ => x

end Parley.Decimal

