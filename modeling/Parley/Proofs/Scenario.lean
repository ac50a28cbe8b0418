import Parley.Assistant
import Parley.Vendor.Catalogue

namespace Parley

def Assistant.plain (vendor : Vendor) (toolbox : Toolbox) : Assistant :=
  .ofProvider (.ofSettings vendor.adapter { vendor := vendor.name, apiKey := "key", model := "model", url := "url" })
    toolbox {}

def Network.answering (bodies : List Json) : Network where
  script := bodies.map fun body => ⟨.answer 200 body.render "OK", .int 0⟩

namespace Vendor.Chat

def saying (message : Fields) : Json := .object [("choices", .list [.object [("message", .object message)]])]

def calling (name arguments : Json) : Json :=
  saying [("tool_calls", .list [.object [("function", .object [("name", name), ("arguments", arguments)])]])]

def spending (prompt completion : Int) (body : Json) : Json :=
  .object (bodyFields body ++ [("usage", .object [("prompt_tokens", .int prompt), ("completion_tokens", .int completion)])])

end Vendor.Chat

def Tool.echo : Tool where
  spec := { name := "echo", arguments := ["text"] }
  run arguments := .ok (.text (arguments.headD ""))

def Toolbox.only (tool : Tool) : Toolbox := { tools := [tool] }

def Tool.joined : Tool where
  spec := { name := "joined", arguments := ["head", "body", "tail"], optional := ["body", "tail"] }
  run arguments := .ok (.text ("|".intercalate arguments))

def Json.textFields? : Fields → Option (List (String × String))
  | [] => some []
  | (key, .text value) :: rest => (textFields? rest).map fun texts => (key, value) :: texts
  | _ => none

theorem Json.eq_of_textFields? {fields : Fields} {texts : List (String × String)}
    (spelled : textFields? fields = some texts) : fields = texts.map fun field => (field.1, .text field.2) := by
  fun_induction textFields? fields generalizing texts with
  | case1 =>
    obtain rfl := Option.some.inj spelled
    rfl
  | case2 key value rest ih =>
    obtain ⟨others, given, rfl⟩ := Option.map_eq_some_iff.1 spelled
    rw [ih given]
    rfl
  | case3 => cases spelled

def Extraction.Reading.spelled? (reading : Reading) : Option (String × List (String × String)) :=
  match reading.calls with
  | [(.text name, .object fields)] => (Json.textFields? fields).map fun texts => (name, texts)
  | _ => none

theorem Extraction.Reading.calls_of_spelled {reading : Reading} {name : String} {texts : List (String × String)}
    (spelled : reading.spelled? = some (name, texts)) :
    reading.calls = [(.text name, .object (texts.map fun field => (field.1, .text field.2)))] := by
  unfold spelled? at spelled
  split at spelled
  next called fields calls =>
    obtain ⟨others, given, same⟩ := Option.map_eq_some_iff.1 spelled
    obtain ⟨rfl, rfl⟩ := Prod.mk.inj same
    rw [calls, Json.eq_of_textFields? given]
  next => cases spelled

def Network.echoing : Network :=
  answering [Vendor.Chat.calling "echo" (.list ["hi"]), Vendor.Chat.saying [("content", "It said hi.")]]

end Parley

