import Parley.Content
import Parley.Tool.Call

namespace Parley

inductive Role where
  | system
  | user
  | assistant
  | function
  deriving DecidableEq, Repr

def Role.name : Role → String
  | .system => "system"
  | .user => "user"
  | .assistant => "assistant"
  | .function => "function"

structure Turn where
  role : Role
  content : Content
  /-- The call that a function turn reports. -/
  outcome : Option Tool.Outcome := none
  deriving DecidableEq, Repr

namespace Turn

def system (content : Content) : Turn := ⟨.system, content, none⟩

def user (content : Content) : Turn := ⟨.user, content, none⟩

def assistant (content : Content) : Turn := ⟨.assistant, content, none⟩

def function (outcome : Tool.Outcome) : Turn :=
  ⟨.function, .text s!"Function {outcome.callText} returned: {outcome.result}", some outcome⟩

def record (turn : Turn) : Json :=
  .object ([("role", .text turn.role.name), ("content", turn.content.asJson)] ++
    match turn.outcome with
    | none => []
    | some outcome =>
        [("function_result", .object [("name", outcome.name), ("arguments", .texts outcome.arguments),
          ("result", outcome.result)])])

end Turn

end Parley

