import Parley.Text.Fence
import Parley.Vendor.Adapter

namespace Parley.Vendor.Chat

structure Dialect where
  name : String
  title : String
  finishes : Table Finish
  /-- What a request with functions says about how to call them. -/
  callRules : Fields

def commonFinishes : Table Finish :=
  [("stop", .stop), ("tool_calls", .functionCall), ("function_call", .functionCall), ("length", .length),
    ("content_filter", .safety)]

def oneCall : Fields := [("parallel_tool_calls", false)]

def gpt : Dialect := ⟨"gpt", "OpenAIProvider", commonFinishes, oneCall⟩

def groq : Dialect := ⟨"groq", "GroqProvider", commonFinishes, oneCall⟩

def deepseek : Dialect :=
  ⟨"deepseek", "DeepSeekProvider", commonFinishes ++ [("insufficient_system_resource", .error)], oneCall⟩

def mistral : Dialect where
  name := "mistral"
  title := "MistralProvider"
  finishes :=
    [("stop", .stop), ("tool_calls", .functionCall), ("length", .length), ("model_length", .length),
      ("content_filter", .safety), ("error", .error)]
  callRules := [("tool_choice", "auto")]

def headers (settings : Settings) : Table String :=
  (baseHeaders settings).put "Authorization" s!"Bearer {settings.apiKey}"

def roleName : Role → String
  | .function => "user"
  | role => role.name

def messages (question : Question) : List Message :=
  let system := systemText question.turns question.systemPrompt
  (if system.isEmpty then [] else [⟨"system", system⟩]) ++
    (spokenTurns question.turns).map fun turn => ⟨roleName turn.role, turn.content⟩

def content (message : Message) : Json := .object [("role", message.role), ("content", message.content.asJson)]

def tool (spec : Tool.Spec) : Json := .object [("type", "function"), ("function", functionCard "parameters" spec)]

def offer (dialect : Dialect) (functions : List Tool.Spec) : Fields :=
  if functions.isEmpty then [] else ("tools", .list (functions.map tool)) :: dialect.callRules

def base (settings : Settings) (question : Question) : Fields :=
  [("model", chosenModel settings question),
    ("messages", .list ((messages question).map content)),
    ("temperature", settings.temperature),
    ("max_tokens", settings.maxTokens)]

def request (dialect : Dialect) (settings : Settings) (question : Question) : Request where
  url := settings.endpoint question.model
  headers := headers settings
  body := base settings question ++ offer dialect question.functions

def message (dialect : Dialect) (body : Json) : Except Failure (Fields × Fields) :=
  match body with
  | .object fields =>
      match Json.field "choices" fields with
      | .list (.object choice :: _) =>
          match Json.field "message" choice with
          | .object message => .ok (choice, message)
          | _ => .error (.malformed dialect.name "First choice has no message")
      | _ => .error (.malformed dialect.name "Response has no choices")
  | _ => .error (.malformed dialect.name s!"Expected a JSON object, got {body.kindName}")

def chunkText (dialect : Dialect) (chunk : Json) : Except Failure String := do
  presentText dialect.name "content chunk text" "text" (← expectObject dialect.name "content chunk" chunk)

def contentText (dialect : Dialect) : Json → Except Failure String
  | .null => .ok ""
  | .text text => .ok text
  | value => do
      return String.join (← (← expectList dialect.name "message content" value).mapM (chunkText dialect))

def checkCall (dialect : Dialect) (call : Json) : Except Failure Unit := do
  let call ← expectObject dialect.name "tool call" call
  let _ ← optionalObject dialect.name "tool call function" "function" call

def checkCalls (dialect : Dialect) (message : Fields) : Except Failure Unit := do
  (← optionalList dialect.name "tool_calls" "tool_calls" message).forM (checkCall dialect)
  let _ ← optionalObject dialect.name "function_call" "function_call" message

def namedCall? : Json → Option (Json × Json)
  | .object function =>
      if (Json.field "name" function).isTruthy then some (Json.field "name" function, Json.field "arguments" function)
      else none
  | _ => none

def toolCall? : Json → Option (Json × Json)
  | .object call => namedCall? (Json.field "function" call)
  | _ => none

/-- The calls of a message. A call field of the older kind counts only if there are no others. -/
def messageCalls (message : Fields) : List (Json × Json) :=
  let listed := match Json.field "tool_calls" message with
    | .list items => items.filterMap toolCall?
    | _ => []
  if listed.isEmpty then (namedCall? (Json.field "function_call" message)).toList else listed

def calls (dialect : Dialect) (body : Json) : List (Json × Json) :=
  match message dialect body with
  | .ok (_, message) => messageCalls message
  | .error _ => []

def usage (dialect : Dialect) (settings : Settings) (elapsed : Number) (body : Fields) : Except Failure Usage := do
  let fields ← optionalObject dialect.name "usage" "usage" body
  return Usage.filled {
    prompt := ← count (Json.field "prompt_tokens" fields)
    completion := ← count (Json.field "completion_tokens" fields)
    total := ← count (Json.field "total_tokens" fields)
    model := (Json.field "model" body).orElse settings.model
    provider := dialect.name
    elapsed := elapsed }

def bodyFields : Json → Fields
  | .object fields => fields
  | _ => []

/-- Why generation ended: a refusal goes first, then a call, then the vendor's word. -/
def finishOf (dialect : Dialect) (refused hasCalls : Bool) (word : String) : Finish :=
  if refused then .safety
  else if hasCalls then .functionCall
  else if word.isEmpty then .stop
  else (dialect.finishes.lookup word).getD .other

def reply (dialect : Dialect) (settings : Settings) (elapsed : Number) (body : Json) : Except Failure Reply := do
  let (choice, message) ← message dialect body
  let word ← optionalText dialect.name "finish_reason" "finish_reason" choice
  let text ← contentText dialect (Json.field "content" message)
  checkCalls dialect message
  let usage ← usage dialect settings elapsed (bodyFields body)
  let refusal := Json.field "refusal" message
  let text := if refusal.isTruthy && text.isEmpty then refusal.plain else text
  return {
    text := Text.answerText text
    finish := finishOf dialect refusal.isTruthy (!(messageCalls message).isEmpty) word
    usage := usage
    body := body
    provider := dialect.name
    vendorFinish := word }

def adapter (dialect : Dialect) : Adapter where
  name := dialect.name
  title := dialect.title
  single := false
  request := request dialect
  reply := reply dialect
  calls := calls dialect

end Parley.Vendor.Chat

