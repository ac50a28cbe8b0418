import Parley.Json.Writer

namespace Parley.Tool

/-- Where in a reply a call was found: in the vendor's own call field, in JSON within the text, or in text that is
shaped like a call. -/
inductive Source where
  | structured
  | json
  | text
  deriving DecidableEq, Repr

def Source.name : Source → String
  | .structured => "structured"
  | .json => "json"
  | .text => "text"

structure Call where
  name : String
  arguments : List String
  source : Source := .structured
  deriving DecidableEq, Repr

def Call.text (call : Call) : String :=
  call.name ++ "(" ++ ", ".intercalate (call.arguments.map Json.renderText) ++ ")"

structure Outcome where
  name : String
  arguments : List String
  result : String
  deriving DecidableEq, Repr

def Outcome.callText (outcome : Outcome) : String :=
  outcome.name ++ "(" ++ ", ".intercalate outcome.arguments ++ ")"

end Parley.Tool

