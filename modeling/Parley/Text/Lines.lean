import Parley.Text.Blank

namespace Parley.Text

def lineEndRanges : List (Nat × Nat) :=
  [(0x0A, 0x0D), (0x1C, 0x1E), (0x85, 0x85), (0x2028, 0x2029)]

def isLineEnd (c : Char) : Bool := inRanges lineEndRanges c.toNat

/-- The lines of a text whose current line already holds `line`, written backwards. -/
def linesFrom (line : List Char) : List Char → List (List Char)
  | [] => if line.isEmpty then [] else [line.reverse]
  | '\r' :: '\n' :: rest => line.reverse :: linesFrom [] rest
  | c :: rest => if isLineEnd c then line.reverse :: linesFrom [] rest else linesFrom (c :: line) rest

def linesOfList (cs : List Char) : List (List Char) := linesFrom [] cs

def lines (text : String) : List String := (linesOfList text.toList).map String.ofList

def firstLine? (text : String) : Option String := (lines text).head?

/-- Every carriage return, alone or before a line feed, read as a line feed. -/
def unifyNewlinesList : List Char → List Char
  | [] => []
  | '\r' :: '\n' :: rest => '\n' :: unifyNewlinesList rest
  | c :: rest => (if c = '\r' then '\n' else c) :: unifyNewlinesList rest

def unifyNewlines (text : String) : String := String.ofList (unifyNewlinesList text.toList)

/-- The pieces between the occurrences of a character. There is always at least one. -/
def splitList (separator : Char) : List Char → List (List Char)
  | [] => [[]]
  | c :: rest =>
      if c = separator then [] :: splitList separator rest
      else match splitList separator rest with
        | [] => [[c]]
        | piece :: pieces => (c :: piece) :: pieces

def split (separator : Char) (text : String) : List String :=
  (splitList separator text.toList).map String.ofList

end Parley.Text

