import Parley.Usage

namespace Parley

inductive Finish where
  | stop
  | functionCall
  | length
  | safety
  | error
  | other
  deriving DecidableEq, Repr

def Finish.name : Finish → String
  | .stop => "stop"
  | .functionCall => "function_call"
  | .length => "length"
  | .safety => "safety"
  | .error => "error"
  | .other => "other"

structure Citation where
  uri : String := ""
  start : Option Int := none
  stop : Option Int := none
  license : String := ""
  date : String := ""
  deriving DecidableEq, Repr

def Citation.lines (citation : Citation) : List String :=
  ["Citation:", "    Uri: " ++ citation.uri] ++
    (match citation.start, citation.stop with
      | some start, some stop => [s!"    Index range: {Text.intText start} - {Text.intText stop}"]
      | _, _ => []) ++
    (if citation.license.isEmpty then [] else ["    License: " ++ citation.license]) ++
    (if citation.date.isEmpty then [] else ["    Publication Date: " ++ citation.date])

def Citation.text (citation : Citation) : String := "\n".intercalate citation.lines

structure SafetyRating where
  category : String
  probability : String
  blocked : Bool := false
  deriving DecidableEq, Repr

def SafetyRating.text (rating : SafetyRating) : String :=
  s!"{rating.category}: {rating.probability}" ++ if rating.blocked then " (blocked)" else ""

structure Reply where
  text : String
  finish : Finish
  usage : Usage
  /-- The vendor's body, in which the calls are looked for. -/
  body : Json
  provider : String := ""
  vendorFinish : String := ""
  citations : List Citation := []
  ratings : List SafetyRating := []

def Reply.isRejection (reply : Reply) : Bool := reply.finish ≠ .stop && reply.finish ≠ .functionCall

end Parley

