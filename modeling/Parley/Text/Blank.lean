/-!
Blank characters and the trimming of text. The blanks are the characters with the Unicode property
White_Space together with the four separator controls U+001C to U+001F; the zero-width space is not one.
-/

namespace Parley.Text

def blankRanges : List (Nat × Nat) :=
  [(0x09, 0x0D), (0x1C, 0x20), (0x85, 0x85), (0xA0, 0xA0), (0x1680, 0x1680), (0x2000, 0x200A),
    (0x2028, 0x2029), (0x202F, 0x202F), (0x205F, 0x205F), (0x3000, 0x3000)]

def inRanges (ranges : List (Nat × Nat)) (code : Nat) : Bool :=
  ranges.any fun range => range.1 ≤ code && code ≤ range.2

def isBlank (c : Char) : Bool := inRanges blankRanges c.toNat

def trimBy (drop : Char → Bool) (cs : List Char) : List Char :=
  ((cs.dropWhile drop).reverse.dropWhile drop).reverse

def trimList (cs : List Char) : List Char := trimBy isBlank cs

def trimEndList (cs : List Char) : List Char := (cs.reverse.dropWhile isBlank).reverse

def trim (text : String) : String := String.ofList (trimList text.toList)

def trimEnd (text : String) : String := String.ofList (trimEndList text.toList)

def isBlankText (text : String) : Bool := text.toList.all isBlank

end Parley.Text
