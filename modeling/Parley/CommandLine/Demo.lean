import Parley.Text.Numeral
import Parley.Toolbox

namespace Parley.CommandLine

def demoDeclarations : String :=
  "\n".intercalate [
    "// Add two whole numbers together",
    "// a: The first number",
    "// b: The second number",
    "fn add(a, b)",
    "",
    "// Report finding an apple of some colour and taste",
    "// color: The colour of the apple",
    "// taste: How the apple tastes",
    "fn apple(color, taste)",
    ""]

def namesInProse (names : List String) : String :=
  let quoted := names.map Text.quoted
  match quoted with
  | [first, second] => s!"{first} and {second}"
  | quoted => ", ".intercalate quoted

def wrongCount (function : String) (parameters : List String) (given : Nat) : Failure :=
  let missing := parameters.drop given
  .foreign .wrongType
    (if missing.isEmpty then
      s!"{function}() takes {Text.natText parameters.length} positional arguments but {Text.natText given} were given"
    else
      let plural := if missing.length = 1 then "argument" else "arguments"
      s!"{function}() missing {Text.natText missing.length} required positional {plural}: {namesInProse missing}")

def readReal (text : String) : Except Failure Float :=
  match Text.readFloat? text with
  | some value => .ok value
  | none => .error (.foreign .invalidValue s!"could not convert string to float: {Text.quoted text}")

def wholeSum? (left right : String) : Option Int := do
  let sum := (← Text.readInt? left) + (← Text.readInt? right)
  if Text.isWritable sum then some sum else none

def add : Behaviour
  | [left, right] =>
      match wholeSum? left right with
      | some sum => .ok (.text (Text.intText sum))
      | none => do
          let left ← readReal left
          let right ← readReal right
          return .text (Decimal.full .plain (left + right))
  | arguments => .error (wrongCount "add" ["a", "b"] arguments.length)

def apple : Behaviour
  | [color, taste] => .ok (.text s!"You have found an apple({color}, {taste})")
  | arguments => .error (wrongCount "apple" ["color", "taste"] arguments.length)

def demoBehaviours : Table Behaviour := [("add", add), ("apple", apple)]

end Parley.CommandLine

