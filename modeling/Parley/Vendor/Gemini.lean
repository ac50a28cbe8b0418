import Parley.Base64
import Parley.Text.Fence
import Parley.Vendor.Adapter

/-!
Gemini. There is no system role: the system's text opens the contents as a message that the model acknowledges. A
body may be a list of chunks, whose parts follow one another and of which the last word counts.
-/

namespace Parley.Vendor.Gemini

def name : String := "gemini"

def acknowledgement : String := "Understood."

def harmCategories : List String :=
  ["HARM_CATEGORY_HARASSMENT", "HARM_CATEGORY_HATE_SPEECH", "HARM_CATEGORY_SEXUALLY_EXPLICIT",
    "HARM_CATEGORY_DANGEROUS_CONTENT"]

def finishes : Table Finish :=
  [("STOP", .stop), ("MAX_TOKENS", .length), ("SAFETY", .safety), ("RECITATION", .safety), ("BLOCKLIST", .safety),
    ("PROHIBITED_CONTENT", .safety), ("SPII", .safety), ("IMAGE_SAFETY", .safety), ("MALFORMED_FUNCTION_CALL", .error)]

def headers (settings : Settings) : Table String := (baseHeaders settings).put "x-goog-api-key" settings.apiKey

def roleName : Role → String
  | .assistant => "model"
  | _ => "user"

/-- The system's text and its acknowledgement, where there is such a text. -/
def opening (system : String) : List Message :=
  if system.isEmpty then [] else [⟨"user", system⟩, ⟨"model", acknowledgement⟩]

def messages (question : Question) : List Message :=
  alternating (opening (systemText question.turns question.systemPrompt) ++
    (spokenTurns question.turns).map fun turn => ⟨roleName turn.role, turn.content⟩)

def content (message : Message) : Json :=
  .object [("role", message.role), ("parts", .list [.object [("text", message.content.asJson)]])]

def threshold (category : String) : Json := .object [("category", category), ("threshold", "BLOCK_ONLY_HIGH")]

def offer (functions : List Tool.Spec) : Fields :=
  if functions.isEmpty then []
  else [("tools", .list [.object [("functionDeclarations", .list (functions.map (functionCard "parameters")))]])]

def base (settings : Settings) (question : Question) : Fields :=
  [("contents", .list ((messages question).map content)),
    ("generationConfig", .object [
      ("temperature", settings.temperature), ("maxOutputTokens", settings.maxTokens), ("candidateCount", .int 1)]),
    ("safetySettings", .list (harmCategories.map threshold))]

def request (settings : Settings) (question : Question) : Request where
  url := settings.endpoint question.model
  headers := headers settings
  body := base settings question ++ offer question.functions

def chunks : Json → List Fields
  | .list items => objectsOf items
  | .object fields => [fields]
  | _ => []

def chunkParts (chunk : Fields) : List Fields :=
  match Json.field "candidates" chunk with
  | .list (.object candidate :: _) =>
      match Json.field "content" candidate with
      | .object content =>
          match Json.field "parts" content with
          | .list parts => objectsOf parts
          | _ => []
      | _ => []
  | _ => []

def parts (body : Json) : List Fields := (chunks body).flatMap chunkParts

def partCall? (part : Fields) : Option (Json × Json) :=
  match Json.field "functionCall" part with
  | .object call =>
      if (Json.field "name" call).isTruthy then
        some (Json.field "name" call, (Json.field "args" call).orElse (.object []))
      else none
  | _ => none

def calls (body : Json) : List (Json × Json) := (parts body).filterMap partCall?

def checkPart (part : Json) : Except Failure Unit := do
  let part ← expectObject name "content part" part
  let _ ← presentText name "part text" "text" part
  let _ ← optionalObject name "functionCall" "functionCall" part

def candidate? (chunk : Fields) : Except Failure (Option Fields) := do
  match ← optionalList name "candidates" "candidates" chunk with
  | [] => return none
  | first :: _ =>
      let candidate ← expectObject name "candidate" first
      let _ ← optionalText name "finishReason" "finishReason" candidate
      let content ← optionalObject name "candidate content" "content" candidate
      (← optionalList name "content parts" "parts" content).forM checkPart
      return some candidate

def dateText : Json → String
  | .object fields =>
      "-".intercalate (["year", "month", "day"].map fun key => ((fields.lookup key).getD (.text "")).plain)
  | value => looseText value

/-- A uri that may have come encoded. -/
def uriText (uri : String) : String := (Base64.printable? uri).getD uri

def position? (key : String) (fields : Fields) : Except Failure (Option Int) :=
  match fields.lookup key with
  | some value => (count value).map some
  | none => .ok none

def citation (source : Json) : Except Failure Citation := do
  let source ← expectObject name "citation" source
  return {
    uri := uriText (looseText (Json.field "uri" source))
    start := ← position? "startIndex" source
    stop := ← position? "endIndex" source
    license := looseText (Json.field "license" source)
    date := dateText (Json.field "publicationDate" source) }

def citations (candidate : Fields) : Except Failure (List Citation) := do
  let metadata ← optionalObject name "citationMetadata" "citationMetadata" candidate
  let sources := firstTruthy (Json.field "citations" metadata) (Json.field "citationSources" metadata) (.list [])
  (← expectList name "citations" sources).mapM citation

def rating (value : Json) : Except Failure SafetyRating := do
  let fields ← expectObject name "safety rating" value
  return ⟨looseText (Json.field "category" fields), looseText (Json.field "probability" fields),
    (Json.field "blocked" fields).isTruthy⟩

def ratings (fields : Fields) : Except Failure (List SafetyRating) := do
  (← optionalList name "safetyRatings" "safetyRatings" fields).mapM rating

/-- What the chunks of a body have said so far. -/
structure Stream where
  finish : String := ""
  prompt : Int := 0
  completion : Int := 0
  total : Int := 0
  hasCandidates : Bool := false
  citations : List Citation := []
  ratings : List SafetyRating := []

/-- The later list if it says anything. -/
def latest {α : Type} (later earlier : List α) : List α := if later.isEmpty then earlier else later

def latestCount (later earlier : Int) : Int := if later = 0 then earlier else later

def Stream.addCandidate (stream : Stream) (candidate : Fields) : Except Failure Stream := do
  let cited ← Gemini.citations candidate
  let rated ← Gemini.ratings candidate
  let finish := looseText (Json.field "finishReason" candidate)
  return { stream with
    hasCandidates := true
    finish := if finish.isEmpty then stream.finish else finish
    citations := stream.citations ++ cited
    ratings := latest rated stream.ratings }

def Stream.addFeedback (stream : Stream) (feedback : Fields) : Except Failure Stream := do
  let block := Json.field "blockReason" feedback
  if block.isTruthy then
    let rated ← Gemini.ratings feedback
    return { stream with finish := block.plain, ratings := latest rated stream.ratings }
  else return stream

/-- Takes note of running totals. -/
def Stream.addUsage (stream : Stream) (metadata : Fields) : Except Failure Stream := do
  let prompt ← count (Json.field "promptTokenCount" metadata)
  let completion ← count (Json.field "candidatesTokenCount" metadata)
  let total ← count (Json.field "totalTokenCount" metadata)
  return { stream with
    prompt := latestCount prompt stream.prompt
    completion := latestCount completion stream.completion
    total := latestCount total stream.total }

def Stream.add (stream : Stream) (chunk : Fields) : Except Failure Stream := do
  let stream ← match ← candidate? chunk with
    | some candidate => stream.addCandidate candidate
    | none => pure stream
  let stream ← stream.addFeedback (← optionalObject name "promptFeedback" "promptFeedback" chunk)
  stream.addUsage (← optionalObject name "usageMetadata" "usageMetadata" chunk)

def partText (part : Fields) : String :=
  match part.lookup "text" with
  | some (.text text) => text
  | _ => ""

/-- Why generation ended: a call goes first, then a blocked prompt, then the vendor's word. -/
def finishOf (stream : Stream) (hasCalls : Bool) : Finish :=
  if hasCalls then .functionCall
  else if !stream.hasCandidates then .safety
  else if stream.finish.isEmpty then .stop
  else (finishes.lookup stream.finish).getD .other

def reply (settings : Settings) (elapsed : Number) (body : Json) : Except Failure Reply := do
  if (chunks body).isEmpty then throw (.malformed name s!"Expected a JSON object, got {body.kindName}")
  let stream ← (chunks body).foldlM Stream.add {}
  if !stream.hasCandidates && stream.finish.isEmpty then
    throw (.malformed name "Response has neither candidates nor promptFeedback")
  return {
    text := Text.answerText (String.join ((parts body).map partText))
    finish := finishOf stream (!(calls body).isEmpty)
    usage := Usage.filled {
      prompt := stream.prompt
      completion := stream.completion
      total := stream.total
      model := settings.model
      provider := name
      elapsed := elapsed }
    body := body
    provider := name
    vendorFinish := stream.finish
    citations := stream.citations
    ratings := stream.ratings }

def adapter : Adapter where
  name := name
  title := "GeminiProvider"
  single := true
  request := request
  reply := reply
  calls := calls

end Parley.Vendor.Gemini

