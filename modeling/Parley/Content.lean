import Parley.Json.Basic

namespace Parley

/-- A text, or nothing at all, which differs from the text without characters. -/
inductive Content where
  | text (value : String)
  | nothing
  deriving DecidableEq, Repr

namespace Content

instance : Coe String Content := ⟨.text⟩

def asJson : Content → Json
  | text value => .text value
  | nothing => .list []

def shown : Content → String
  | text value => value
  | nothing => "[]"

def isEmpty : Content → Bool
  | text value => value.isEmpty
  | nothing => true

/-- The text of a content that says anything. -/
def spoken? : Content → Option String
  | text value => if value.isEmpty then none else some value
  | nothing => none

end Content

end Parley

