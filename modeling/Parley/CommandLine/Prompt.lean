import Parley.Table
import Parley.Text.Blank
import Parley.Text.Lines
import Parley.Text.Search

/-!
Reading prompts: a prompt is all the lines up to the end of the input, except that a command alone on the first
line is a prompt of its own. The end of the input may be reached several times, as at a terminal.
-/

namespace Parley.CommandLine

inductive Read where
  | line (text : String)
  | done
  deriving DecidableEq, Repr

/-- The lines of a stretch of input, and its end. What follows the last line feed is a line if it is not empty. -/
def readsOf (input : String) : List Read :=
  let pieces := Text.splitList '\n' input.toList
  (pieces.dropLast ++ (pieces.getLast?.filter fun last => !last.isEmpty).toList).map
      (fun piece => .line (String.ofList piece)) ++
    [.done]

inductive Directive where
  | leave
  | forget
  | recall
  | persona
  deriving DecidableEq, Repr

def directives : Table Directive :=
  [("quit", .leave), ("exit", .leave), ("new", .forget), ("clear", .forget), ("show", .recall), ("history", .recall),
    ("system", .persona)]

def directive? (prompt : String) : Option Directive := directives.lookup (Text.lower prompt)

def isCommand (line : String) : Bool := (directive? (Text.trim line)).isSome

def gather : List Read → List String × List Read
  | [] => ([], [])
  | .done :: rest => ([], rest)
  | .line text :: rest =>
      let (lines, rest) := gather rest
      (text :: lines, rest)

def readPrompt : List Read → String × List Read
  | .line text :: rest =>
      if isCommand text then (Text.trim text, rest)
      else
        let (lines, rest) := gather rest
        (Text.trim ("\n".intercalate (text :: lines)), rest)
  | .done :: rest => ("", rest)
  | [] => ("", [])

theorem gather_length (input : List Read) : (gather input).2.length ≤ input.length := by
  induction input with
  | nil => simp [gather]
  | cons read rest ih =>
    cases read with
    | done => simp [gather]
    | line text => simpa [gather] using Nat.le_succ_of_le ih

theorem readPrompt_length {input : List Read} (nonempty : input ≠ []) :
    (readPrompt input).2.length < input.length := by
  cases input with
  | nil => exact absurd rfl nonempty
  | cons read rest =>
    cases read with
    | done => simp [readPrompt]
    | line text =>
      have bound := gather_length rest
      simp only [readPrompt]
      split
      · simp
      · simp; omega

end Parley.CommandLine

