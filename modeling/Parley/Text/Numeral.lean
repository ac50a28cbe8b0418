import Parley.Text.Blank
import Parley.Text.Digit
import Parley.Text.Search

namespace Parley.Text

def isNumeralBlank (c : Char) : Bool := isBlank c && !(0x1C ≤ c.toNat && c.toNat ≤ 0x1F)

/-- The digits that lead a list, single underscores between two of them passed over, and the rest. -/
def digitRun : List Char → List Nat × List Char
  | [] => ([], [])
  | c :: rest =>
      match digitValue? c, rest with
      | none, _ => ([], c :: rest)
      | some digit, '_' :: next :: later =>
          if (digitValue? next).isSome then
            let run := digitRun (next :: later)
            (digit :: run.1, run.2)
          else ([digit], '_' :: next :: later)
      | some digit, rest =>
          let run := digitRun rest
          (digit :: run.1, run.2)

def takeSign : List Char → Bool × List Char
  | '-' :: rest => (true, rest)
  | '+' :: rest => (false, rest)
  | rest => (false, rest)

/-- The integer that a numeral denotes. Zeros in front count towards the digit limit. -/
def readInt? (text : String) : Option Int :=
  let (negative, body) := takeSign (trimBy isNumeralBlank text.toList)
  match digitRun body with
  | ([], _) => none
  | (digits, []) =>
      if digits.length ≤ digitLimit then some (if negative then -(ofDigits digits : Int) else ofDigits digits)
      else none
  | _ => none

def scaled (digits : List Nat) (exponent : Int) : Float :=
  Float.ofScientific (ofDigits digits) (exponent < 0) exponent.natAbs

def takeFraction : List Char → List Nat × List Char
  | '.' :: rest => digitRun rest
  | rest => ([], rest)

/-- The value of an exponent that takes up the whole list; the empty list is an exponent of zero. -/
def exponent? : List Char → Option Int
  | [] => some 0
  | c :: rest =>
      if c = 'e' || c = 'E' then
        let (negative, body) := takeSign rest
        match digitRun body with
        | (digit :: digits, []) =>
            some (if negative then -(ofDigits (digit :: digits) : Int) else ofDigits (digit :: digits))
        | _ => none
      else none

def unsignedFloat? (body : List Char) : Option Float :=
  if body.map lowerAscii = "inf".toList || body.map lowerAscii = "infinity".toList then some (1.0 / 0.0)
  else if body.map lowerAscii = "nan".toList then some (0.0 / 0.0)
  else
    let (whole, rest) := digitRun body
    let (fraction, rest) := takeFraction rest
    if whole.isEmpty && fraction.isEmpty then none
    else (exponent? rest).map fun exponent => scaled (whole ++ fraction) (exponent - fraction.length)

def readFloat? (text : String) : Option Float :=
  let (negative, body) := takeSign (trimBy isNumeralBlank text.toList)
  (unsignedFloat? body).map fun value => if negative then -value else value

end Parley.Text

