import Parley.Text.Lines

namespace Parley.Text

/-- Each tab as the spaces up to the next column that is a multiple of eight. -/
def expandTabsFrom (column : Nat) : List Char → List Char
  | [] => []
  | c :: rest =>
      if c = '\t' then List.replicate (8 - column % 8) ' ' ++ expandTabsFrom 0 rest
      else c :: expandTabsFrom (if c = '\n' || c = '\r' then 0 else column + 1) rest

def dropBlankStart (cs : List Char) : List Char := cs.dropWhile isBlank

def margin? (lines : List (List Char)) : Option Nat :=
  ((lines.filter fun line => !line.all isBlank).map fun line => (line.takeWhile isBlank).length).min?

def withoutMargin (lines : List (List Char)) : List (List Char) :=
  match margin? lines with
  | some width => lines.map (·.drop width)
  | none => lines

def unindented (text : String) : String :=
  let lines :=
    match splitList '\n' (expandTabsFrom 0 text.toList) with
    | [] => []
    | first :: rest => dropBlankStart first :: withoutMargin rest
  let kept := trimLines lines
  "\n".intercalate (kept.map String.ofList)
where
  trimLines (lines : List (List Char)) : List (List Char) :=
    ((lines.dropWhile List.isEmpty).reverse.dropWhile List.isEmpty).reverse

end Parley.Text

