import Parley.Text.Printable

/-!
Base64 in its standard alphabet, read strictly: nothing but digits of the alphabet may come before the padding, and
an incomplete group must be padded to exactly four characters.
-/

namespace Parley.Base64

def sextet? (c : Char) : Option Nat :=
  if 'A' ≤ c && c ≤ 'Z' then some (c.toNat - 'A'.toNat)
  else if 'a' ≤ c && c ≤ 'z' then some (c.toNat - 'a'.toNat + 26)
  else if '0' ≤ c && c ≤ '9' then some (c.toNat - '0'.toNat + 52)
  else if c = '+' then some 62
  else if c = '/' then some 63
  else none

/-- Whether a number of padding characters may follow a number of digits. A complete group may be followed by any
number of them. -/
def padded (digits padding : Nat) : Bool :=
  match digits % 4 with
  | 0 => 0 < digits || padding = 0
  | 2 => padding = 2
  | 3 => padding = 1
  | _ => false

/-- The bytes that groups of four sextets spell; of an incomplete last group, those that are complete. -/
def bytesOf : List Nat → List UInt8
  | a :: b :: c :: d :: rest =>
      UInt8.ofNat (a * 4 + b / 16) :: UInt8.ofNat (b % 16 * 16 + c / 4) :: UInt8.ofNat (c % 4 * 64 + d) :: bytesOf rest
  | [a, b, c] => [UInt8.ofNat (a * 4 + b / 16), UInt8.ofNat (b % 16 * 16 + c / 4)]
  | [a, b] => [UInt8.ofNat (a * 4 + b / 16)]
  | _ => []

def decode? (cs : List Char) : Option (List UInt8) :=
  let digits := cs.takeWhile fun c => c ≠ '='
  let padding := cs.dropWhile fun c => c ≠ '='
  if padding.all (· = '=') && padded digits.length padding.length then
    (digits.mapM sextet?).map bytesOf
  else none

/-- The printable text that a text encodes, if it encodes one. -/
def printable? (text : String) : Option String :=
  match (decode? text.toList).bind fun bytes => String.fromUTF8? ⟨bytes.toArray⟩ with
  | some decoded => if Text.isPrintableText decoded then some decoded else none
  | none => none

end Parley.Base64

