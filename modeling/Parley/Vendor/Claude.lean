import Parley.Text.Fence
import Parley.Vendor.Adapter

namespace Parley.Vendor.Claude

def name : String := "claude"

def defaultVersion : String := "2023-06-01"

def finishes : Table Finish :=
  [("end_turn", .stop), ("stop_sequence", .stop), ("tool_use", .functionCall), ("max_tokens", .length),
    ("refusal", .safety)]

def headers (settings : Settings) : Table String :=
  ((baseHeaders settings).put "x-api-key" settings.apiKey).put "anthropic-version"
    (if settings.version.isEmpty then defaultVersion else settings.version)

def roleName : Role → String
  | .assistant => "assistant"
  | _ => "user"

/-- The message that opens a conversation in which the assistant speaks first. -/
def opener : Message := ⟨"user", "(conversation start)"⟩

def opened : List Message → List Message
  | [] => []
  | first :: rest => if first.role = "user" then first :: rest else opener :: first :: rest

def messages (question : Question) : List Message :=
  opened (alternating ((spokenTurns question.turns).map fun turn => ⟨roleName turn.role, turn.content⟩))

def content (message : Message) : Json := .object [("role", message.role), ("content", message.content.asJson)]

def offer (functions : List Tool.Spec) : Fields :=
  if functions.isEmpty then []
  else [("tools", .list (functions.map (functionCard "input_schema"))),
    ("tool_choice", .object [("type", "auto"), ("disable_parallel_tool_use", true)])]

def system (text : String) : Fields := if text.isEmpty then [] else [("system", text)]

def base (settings : Settings) (question : Question) : Fields :=
  [("model", chosenModel settings question),
    ("max_tokens", settings.maxTokens),
    ("temperature", settings.temperature),
    ("messages", .list ((messages question).map content))]

def request (settings : Settings) (question : Question) : Request where
  url := settings.endpoint question.model
  headers := headers settings
  body := base settings question ++ system (systemText question.turns question.systemPrompt) ++ offer question.functions

def blocks (body : Json) : Except Failure (Fields × List Json) :=
  match body with
  | .object fields =>
      match Json.field "content" fields with
      | .list items => .ok (fields, items)
      | _ => .error (.malformed name "Response has no content list")
  | _ => .error (.malformed name s!"Expected a JSON object, got {body.kindName}")

def isKind (kind : String) (block : Fields) : Bool := isText kind (Json.field "type" block)

def blockCall? (block : Fields) : Option (Json × Json) :=
  if isKind "tool_use" block && (Json.field "name" block).isTruthy then
    some (Json.field "name" block, (Json.field "input" block).orElse (.object []))
  else none

def calls (body : Json) : List (Json × Json) :=
  match blocks body with
  | .ok (_, items) => (objectsOf items).filterMap blockCall?
  | .error _ => []

def checkInput (block : Fields) : Except Failure Unit := do
  if isKind "tool_use" block then
    let _ ← optionalObject name "tool_use input" "input" block

def usage (settings : Settings) (elapsed : Number) (body : Fields) : Except Failure Usage := do
  let fields ← optionalObject name "usage" "usage" body
  return Usage.filled {
    prompt := ← count (Json.field "input_tokens" fields)
    completion := ← count (Json.field "output_tokens" fields)
    model := (Json.field "model" body).orElse settings.model
    provider := name
    elapsed := elapsed }

/-- Why generation ended: a call goes first, then the vendor's word. -/
def finishOf (hasCalls : Bool) (word : String) : Finish :=
  if hasCalls then .functionCall
  else if word.isEmpty then .stop
  else (finishes.lookup word).getD .other

def reply (settings : Settings) (elapsed : Number) (body : Json) : Except Failure Reply := do
  let (fields, items) ← blocks body
  let blocks ← items.mapM (expectObject name "content block")
  let word ← optionalText name "stop_reason" "stop_reason" fields
  let texts ← (blocks.filter (isKind "text")).mapM (presentText name "text block" "text")
  blocks.forM checkInput
  let finish := finishOf (!(calls body).isEmpty) word
  let usage ← usage settings elapsed fields
  return {
    text := Text.answerText (String.join texts)
    finish := finish
    usage := usage
    body := body
    provider := name
    vendorFinish := word }

def adapter : Adapter where
  name := name
  title := "AnthropicProvider"
  single := true
  request := request
  reply := reply
  calls := calls

end Parley.Vendor.Claude

