import Parley.Failure
import Parley.Json.Reader

namespace Parley.Json

def Defect.failure : Defect → Failure
  | malformed => .foreign .malformedText "the text is not JSON"
  | oversized digits => .tooManyDigits (some digits)
  | tooDeep => .foreign .recursion "the text is nested too deeply"

/-- The value that a list of characters spells, or nothing where it is not JSON at all. A text that is out of bounds
fails. -/
def decoded? (cs : List Char) : Except Failure (Option Json) :=
  match readList cs with
  | .ok value => .ok (some value)
  | .error .malformed => .ok none
  | .error defect => .error defect.failure

def decoded (text : String) : Except Failure Json := (readList text.toList).mapError Defect.failure

theorem decoded?_eq_some {cs : List Char} {value : Json} (h : readList cs = .ok value) :
    decoded? cs = .ok (some value) := by
  simp [decoded?, h]

end Parley.Json

