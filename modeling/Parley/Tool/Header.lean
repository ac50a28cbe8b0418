import Parley.Text.Identifier
import Parley.Text.Margin
import Parley.Tool.Spec

namespace Parley.Tool

inductive ParameterKind where
  | positionalOnly
  | positionalOrKeyword
  | keywordOnly
  | positionalRest
  | keywordRest
  deriving DecidableEq, Repr

structure Parameter where
  name : String
  kind : ParameterKind := .positionalOrKeyword
  hasDefault : Bool := false
  deriving DecidableEq, Repr

namespace ParameterKind

def text : ParameterKind → String
  | .positionalOnly => "positional-only"
  | .positionalOrKeyword => "positional or keyword"
  | .positionalRest => "variadic positional"
  | .keywordOnly => "keyword-only"
  | .keywordRest => "variadic keyword"

def rank : ParameterKind → Nat
  | .positionalOnly => 0
  | .positionalOrKeyword => 1
  | .positionalRest => 2
  | .keywordOnly => 3
  | .keywordRest => 4

def isOrdered (kind : ParameterKind) : Bool := kind = .positionalOnly || kind = .positionalOrKeyword

def isRest (kind : ParameterKind) : Bool := kind = .positionalRest || kind = .keywordRest

end ParameterKind

/-- The words that no parameter has as its name, unless it is given by its position alone. -/
def reservedWords : List String :=
  ["False", "None", "True", "and", "as", "assert", "async", "await", "break", "class", "continue", "def", "del", "elif",
    "else", "except", "finally", "for", "from", "global", "if", "import", "in", "is", "lambda", "nonlocal", "not", "or",
    "pass", "raise", "return", "try", "while", "with", "yield"]

namespace Parameter

def isNamed (parameter : Parameter) : Bool :=
  Text.isIdentifier parameter.name && (parameter.kind = .positionalOnly || !reservedWords.contains parameter.name)

def named (parameter : Parameter) : Except Failure Parameter :=
  if parameter.isNamed then .ok parameter
  else .error (.foreign .invalidValue (Text.quoted parameter.name ++ " is not a valid parameter name"))

/-- The parameter that a point and a number stand for: one without a name of its own, given by its position alone. -/
def implicit (parameter : Parameter) (number : List Char) : Except Failure Parameter :=
  if parameter.kind = .positionalOrKeyword then
    named { parameter with name := "implicit" ++ String.ofList number, kind := .positionalOnly }
  else
    .error (.foreign .invalidValue
      s!"implicit arguments must be passed as positional or keyword arguments, not {parameter.kind.text}")

def identified (parameter : Parameter) : Except Failure Parameter :=
  match parameter.name.toList with
  | [] => .error (.foreign .badIndex "string index out of range")
  | first :: rest =>
      if first = '.' && !rest.isEmpty && rest.all Text.isDigit then parameter.implicit rest else parameter.named

/-- The parameter as it stands in a header. What takes all that the others leave has no default of its own. -/
def checked (parameter : Parameter) : Except Failure Parameter :=
  if parameter.kind.isRest && parameter.hasDefault then
    .error (.foreign .invalidValue s!"{parameter.kind.text} parameters cannot have default values")
  else parameter.identified

end Parameter

/-- Whether a parameter takes one of the ordered arguments. The receiver of a method does not. -/
def Parameter.isArgument (parameter : Parameter) : Bool :=
  parameter.name ≠ "self" && parameter.name ≠ "cls" && parameter.kind.isOrdered

structure Header where
  name : String
  prose : Option String := none
  parameters : List Parameter := []
  deriving DecidableEq, Repr

/-- Why a parameter cannot follow those before it: kinds keep to their order, an ordered argument without a default
does not follow one with a default, and no name comes twice. -/
def misplaced? (before : List Parameter) (parameter : Parameter) : Option String :=
  match before.getLast?.filter fun earlier => parameter.kind.rank < earlier.kind.rank with
  | some earlier => some s!"wrong parameter order: {earlier.kind.text} parameter before {parameter.kind.text} parameter"
  | none =>
      if parameter.kind.isOrdered && !parameter.hasDefault && before.any Parameter.hasDefault then
        some "non-default argument follows default argument"
      else if before.any fun earlier => earlier.name = parameter.name then
        some ("duplicate parameter name: " ++ Text.quoted parameter.name)
      else none

/-- The parameters behind `before`, in which each can follow those before it. -/
def orderedFrom (before : List Parameter) : List Parameter → Except Failure (List Parameter)
  | [] => .ok []
  | parameter :: rest =>
      match misplaced? before parameter with
      | some reason => .error (.foreign .invalidValue reason)
      | none => (orderedFrom (before ++ [parameter]) rest).map (parameter :: ·)

def Header.checked (header : Header) : Except Failure Header := do
  let parameters ← header.parameters.mapM Parameter.checked
  return { header with parameters := ← orderedFrom [] parameters }

structure Note where
  name : Option String := none
  description : Option String := none
  argumentTexts : Table String := []

def nonEmpty? (text : Option String) : Option String := text.filter fun text => !text.isEmpty

/-- The spec of a function. The note goes before the header; a function without prose is described by its name. -/
def Header.spec (header : Header) (note : Note) : Except Failure Spec :=
  let name := (nonEmpty? note.name).getD header.name
  let arguments := header.parameters.filter Parameter.isArgument
  let description :=
    ((nonEmpty? note.description).orElse fun _ => nonEmpty? (header.prose.map Text.unindented)).getD s!"Function {name}"
  Spec.checked {
    name := name
    arguments := arguments.map Parameter.name
    description := description
    argumentTexts := note.argumentTexts
    optional := (arguments.filter Parameter.hasDefault).map Parameter.name }

end Parley.Tool

