import Parley.Text.Blank
import Parley.Extraction.Arguments

/-!
Scanning the text of a call: where its parentheses close, and where commas separate its arguments. Quotes hide
what stands between them, and a backslash between quotes hides the character after it.
-/

namespace Parley.Extraction

inductive Quoting where
  | outside
  | inside (quote : Char)
  | escaped (quote : Char)
  deriving DecidableEq, Repr

def Quoting.next (state : Quoting) (c : Char) : Quoting :=
  match state with
  | outside => if isQuote c then inside c else outside
  | inside quote => if c = '\\' then escaped quote else if c = quote then outside else inside quote
  | escaped quote => inside quote

def depthChange (c : Char) : Int :=
  if c = '(' || c = '[' || c = '\x7b' then 1
  else if c = ')' || c = ']' || c = '\x7d' then -1
  else 0

def piecesFrom (state : Quoting) (depth : Int) (piece : List Char) : List Char → List (List Char)
  | [] => [piece.reverse]
  | c :: rest =>
      if state = .outside && depth = 0 && c = ',' then piece.reverse :: piecesFrom .outside 0 [] rest
      else
        let change := if state = .outside then depthChange c else 0
        piecesFrom (state.next c) (depth + change) (c :: piece) rest

def pieces (cs : List Char) : List (List Char) := piecesFrom .outside 0 [] cs

def splitArguments (cs : List Char) : List (List Char) :=
  match (pieces cs).map Text.trimList with
  | [[]] => []
  | parts => parts

/-- What stands before the parenthesis that closes a call whose opening one has just been passed, and what stands
after it. Further parentheses must close first. -/
def enclosedFrom (state : Quoting) (depth : Nat) : List Char → Option (List Char × List Char)
  | [] => none
  | c :: rest =>
      let resume := fun depth =>
        (enclosedFrom (state.next c) depth rest).map fun (inner, after) => (c :: inner, after)
      if state = .outside then
        if c = '(' then resume (depth + 1)
        else if c = ')' then
          match depth with
          | 0 => some ([], rest)
          | depth + 1 => resume depth
        else resume depth
      else resume depth

def enclosed? (cs : List Char) : Option (List Char × List Char) := enclosedFrom .outside 0 cs

theorem pieces_ne_nil (cs : List Char) : pieces cs ≠ [] := by
  have all : ∀ state depth piece, piecesFrom state depth piece cs ≠ [] := by
    induction cs with
    | nil => simp [piecesFrom]
    | cons c rest ih =>
      intro state depth piece
      simp only [piecesFrom]
      split
      · simp
      · exact ih _ _ _
  exact all _ _ _

end Parley.Extraction

