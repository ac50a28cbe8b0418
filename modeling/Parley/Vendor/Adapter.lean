import Parley.Network
import Parley.Reply
import Parley.Settings
import Parley.Tool.Spec
import Parley.Vendor.Complaint
import Parley.Vendor.Conversation
import Parley.Vendor.Shape

namespace Parley.Vendor

structure Request where
  url : String
  headers : Table String
  body : Fields

def Request.text (request : Request) : String :=
  s!"POST {request.url} body keys={Text.quotedList (request.body.names.mergeSort (· ≤ ·))}"

/-- What a vendor is asked: the turns so far, the prompt that goes before them, and the functions that it may call.
An empty model stands for the settings' own, and so does none. -/
structure Question where
  turns : List Turn
  systemPrompt : String := ""
  functions : List Tool.Spec := []
  model : Option String := none

structure Adapter where
  name : String
  /-- The name under which a provider with this adapter is shown. -/
  title : String
  /-- Whether the vendor sends one call per turn at most. -/
  single : Bool
  request : Settings → Question → Request
  /-- Reads a body that took the given time to come. -/
  reply : Settings → Number → Json → Except Failure Reply
  /-- The calls in the vendor's own call field, each a name and its arguments. -/
  calls : Json → List (Json × Json)

def baseHeaders (settings : Settings) : Table String :=
  settings.extraHeaders.foldl (fun headers header => headers.put header.1 header.2)
    [("Content-Type", "application/json")]

def chosenModel (settings : Settings) (question : Question) : String :=
  (question.model.filter fun model => !model.isEmpty).getD settings.model

def functionCard (argumentsKey : String) (spec : Tool.Spec) : Json :=
  .object [("name", spec.name), ("description", spec.description), (argumentsKey, spec.schema)]

/-- An adapter with settings. The timeout is the connection's own, which need not be that of the settings. -/
structure Provider where
  adapter : Adapter
  settings : Settings
  timeout : Json

namespace Provider

def ofSettings (adapter : Adapter) (settings : Settings) : Provider := ⟨adapter, settings, settings.timeout⟩

def text (provider : Provider) : String :=
  s!"{provider.adapter.title}(model={Text.quoted provider.settings.model})"

def attributed (provider : String) : Failure → Failure
  | .transport text status owner => .transport (Failure.transport text status owner).detail status provider
  | .malformed owner text => .malformed provider (Failure.malformed owner text).detail
  | failure => failure

/-- The body of an answer, unless its status or its content makes it an error. -/
def accepted (provider : String) (status : Int) (body : Json) : Except Failure Json :=
  match bodyMessage? body with
  | some message => .error (.transport message (some status) provider)
  | none =>
      if 400 ≤ status then .error (.transport "request rejected without an error message" (some status) provider)
      else .ok body

/-- A failure of reading a body as the provider reports it. Foreign failures that come of an unexpected shape count
as malformed bodies. -/
def shapeFailure (provider : String) : Failure → Failure
  | .foreign kind text =>
      match kind with
      | .missingAttribute | .wrongType | .missingKey | .badIndex =>
          .malformed provider s!"Unexpected response shape: {(Failure.foreign kind text).message}"
      | _ => .foreign kind text
  | failure => failure

def send (provider : Provider) (request : Request) (network : Network) : Except Failure Json × Network :=
  let (result, network) := network.post ⟨request.url, request.headers, .object request.body, provider.timeout⟩
  match result with
  | .error failure => (.error (attributed provider.adapter.name failure), network)
  | .ok (status, body) => (accepted provider.adapter.name status body, network)

def ask (provider : Provider) (question : Question) (network : Network) : Except Failure Reply × Network :=
  let (result, later) := provider.send (provider.adapter.request provider.settings question) network
  match result with
  | .error failure => (.error failure, later)
  | .ok body =>
      let elapsed := Number.float (later.clock - network.clock)
      ((provider.adapter.reply provider.settings elapsed body).mapError (shapeFailure provider.adapter.name), later)

end Provider

end Parley.Vendor

