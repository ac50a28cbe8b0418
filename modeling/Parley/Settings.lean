import Parley.Failure
import Parley.Text.Search

namespace Parley

structure Settings where
  vendor : String
  apiKey : String
  model : String
  url : String
  /-- Usually a number of seconds. -/
  timeout : Json := .number (.float 120.0)
  temperature : Json := .number (.float 0.2)
  maxTokens : Json := .int 4096
  version : String := ""
  extraHeaders : Table String := []

namespace Settings

/-- The endpoint with the model put in where the url asks for it; an empty model stands for the settings' own. -/
def endpoint (settings : Settings) (model : Option String) : String :=
  let chosen := (model.filter fun model => !model.isEmpty).getD settings.model
  Text.replace "\x7bmodel\x7d" chosen settings.url

def withModel (settings : Settings) (model : String) : Settings := { settings with model := model }

def text (settings : Settings) : String :=
  "ProviderConfig(" ++ ", ".intercalate [
    "vendor=" ++ Text.quoted settings.vendor,
    "model=" ++ Text.quoted settings.model,
    "url=" ++ Text.quoted settings.url,
    "timeout=" ++ settings.timeout.plain,
    "temperature=" ++ settings.temperature.plain,
    "max_tokens=" ++ settings.maxTokens.plain] ++ ")"

end Settings

inductive Override where
  | apiKey (value : String)
  | url (value : String)
  | timeout (value : Json)
  | temperature (value : Json)
  | maxTokens (value : Json)
  | version (value : String)
  | extraHeaders (value : Table String)
  /-- A setting that is given by other means, so that it cannot be changed at all. -/
  | fixed (name : String)
  /-- A setting that does not exist. -/
  | unknown (name : String)

def Override.isFixed : Override → Bool
  | .fixed _ => true
  | _ => false

def Override.apply (settings : Settings) : Override → Except Failure Settings
  | .apiKey value => .ok { settings with apiKey := value }
  | .url value => .ok { settings with url := value }
  | .timeout value => .ok { settings with timeout := value }
  | .temperature value => .ok { settings with temperature := value }
  | .maxTokens value => .ok { settings with maxTokens := value }
  | .version value => .ok { settings with version := value }
  | .extraHeaders value => .ok { settings with extraHeaders := value }
  | .fixed name => .error (.foreign .wrongType s!"setting '{name}' is given twice")
  | .unknown name => .error (.foreign .wrongType s!"unexpected setting '{name}'")

end Parley

