import Parley.Failure

namespace Parley

namespace Tool

structure Spec where
  name : String
  arguments : List String := []
  description : String := ""
  argumentTexts : Table String := []
  optional : List String := []
  deriving DecidableEq, Repr, Inhabited

namespace Spec

/-- The last `count` arguments. A count beyond the number of arguments wraps around once, so that counting starts
again from the end. -/
def lastArguments (arguments : List String) (count : Nat) : List String :=
  if count ≤ arguments.length then arguments.drop (arguments.length - count)
  else arguments.drop (2 * arguments.length - count)

/-- Whether the optional names are, as a set, the trailing arguments. -/
def optionalTrails (spec : Spec) : Bool :=
  spec.optional.isEmpty ||
    let trailing := lastArguments spec.arguments spec.optional.length
    spec.optional.all trailing.contains && trailing.all spec.optional.contains

def checked (spec : Spec) : Except Failure Spec :=
  if spec.optionalTrails then .ok spec
  else .error (.foreign .invalidValue
    s!"Optional arguments of {spec.name} must be the trailing ones, got {Text.quotedList spec.optional}")

def arity (spec : Spec) : Int := spec.arguments.length

def minArity (spec : Spec) : Int := spec.arguments.length - spec.optional.length

def accepts (spec : Spec) (count : Int) : Bool := spec.minArity ≤ count && count ≤ spec.arity

/-- What an argument is for; its own name where nothing else is said. -/
def argumentText (spec : Spec) (argument : String) : String :=
  (spec.argumentTexts.lookup argument).getD argument

def isOptional (spec : Spec) (argument : String) : Bool := spec.optional.contains argument

def required (spec : Spec) : List String := spec.arguments.filter fun argument => !spec.isOptional argument

/-- The JSON schema by which vendors learn the arguments: all are texts, and the optional ones are not required. -/
def schema (spec : Spec) : Json :=
  .object [
    ("type", "object"),
    ("properties", .object (Table.ofEntries (spec.arguments.map fun argument =>
      (argument, .object [("type", "string"), ("description", spec.argumentText argument)])))),
    ("required", .texts spec.required)]

def signature (spec : Spec) : String :=
  spec.name ++ "(" ++
    ", ".intercalate (spec.arguments.map fun argument => if spec.isOptional argument then "*" ++ argument else argument) ++
    ")"

theorem checked_eq_ok {spec result : Spec} (h : spec.checked = .ok result) :
    result = spec ∧ spec.optionalTrails = true := by
  unfold checked at h
  split at h
  · next trails => exact ⟨(Except.ok.inj h).symm, trails⟩
  · simp at h

end Spec

end Tool

end Parley

