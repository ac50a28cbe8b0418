import Parley.Text.Digit

namespace Parley.Json

def unitsOfChar (c : Char) : List Nat :=
  if c.toNat < 0x10000 then [c.toNat]
  else [0xD800 + (c.toNat - 0x10000) / 0x400, 0xDC00 + (c.toNat - 0x10000) % 0x400]

def isHighSurrogate (unit : Nat) : Bool := 0xD800 ≤ unit && unit < 0xDC00

def isLowSurrogate (unit : Nat) : Bool := 0xDC00 ≤ unit && unit < 0xE000

/-- The character with a given code point, if there is one. -/
def charOfPoint? (point : Nat) : Option Char :=
  if point.isValidChar then some (Char.ofNat point) else none

/-- The characters that a list of units and code points spells. A surrogate without its partner spells none. This is a
restriction: JSON admits an escape for one, but no text here can hold it, so what is said of every text or body is said
of those without such escapes. -/
def charsOfUnits? : List Nat → Option (List Char)
  | [] => some []
  | [unit] => (charOfPoint? unit).map ([·])
  | unit :: next :: rest =>
      if isHighSurrogate unit && isLowSurrogate next then do
        let c ← charOfPoint? (0x10000 + (unit - 0xD800) * 0x400 + (next - 0xDC00))
        let cs ← charsOfUnits? rest
        some (c :: cs)
      else do
        let c ← charOfPoint? unit
        let cs ← charsOfUnits? (next :: rest)
        some (c :: cs)

theorem charOfPoint?_toNat (c : Char) : charOfPoint? c.toNat = some c := by
  have valid : c.toNat.isValidChar := c.valid
  simp [charOfPoint?, valid]

end Parley.Json

