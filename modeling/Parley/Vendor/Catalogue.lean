import Parley.Environment
import Parley.Vendor.Chat
import Parley.Vendor.Claude
import Parley.Vendor.Gemini

namespace Parley

inductive Vendor where
  | gemini
  | gpt
  | claude
  | mistral
  | deepseek
  | groq
  deriving DecidableEq, Repr

namespace Vendor

def all : List Vendor := [.gemini, .gpt, .claude, .mistral, .deepseek, .groq]

def name : Vendor → String
  | gemini => "gemini"
  | gpt => "gpt"
  | claude => "claude"
  | mistral => "mistral"
  | deepseek => "deepseek"
  | groq => "groq"

def adapter : Vendor → Adapter
  | gemini => Gemini.adapter
  | gpt => Chat.adapter Chat.gpt
  | claude => Claude.adapter
  | mistral => Chat.adapter Chat.mistral
  | deepseek => Chat.adapter Chat.deepseek
  | groq => Chat.adapter Chat.groq

/-- Other names of the vendors, and the numbers by which they may be called. -/
def aliases : Table Vendor :=
  [("0", gemini), ("1", gpt), ("openai", gpt), ("2", claude), ("anthropic", claude), ("3", mistral), ("4", deepseek),
    ("5", groq)]

structure Defaults where
  keyVariables : List String
  modelVariable : String
  urlVariable : String
  model : String
  url : String

def defaults : Vendor → Defaults
  | gemini =>
      ⟨["GEMINI_API_KEY", "GOOGLE_API_KEY"], "GEMINI_MODEL", "GEMINI_URL", "gemini-2.0-flash",
        "https://generativelanguage.googleapis.com/v1beta/models/\x7bmodel\x7d:generateContent"⟩
  | gpt =>
      ⟨["OPENAI_API_KEY"], "GPT_MODEL", "GPT_CHAT_URL", "gpt-4o", "https://api.openai.com/v1/chat/completions"⟩
  | claude =>
      ⟨["ANTHROPIC_API_KEY"], "CLAUDE_MODEL", "CLAUDE_URL", "claude-3-5-sonnet-20241022",
        "https://api.anthropic.com/v1/messages"⟩
  | mistral =>
      ⟨["MISTRAL_API_KEY"], "MISTRAL_MODEL", "MISTRAL_CHAT_URL", "mistral-large-latest",
        "https://api.mistral.ai/v1/chat/completions"⟩
  | deepseek =>
      ⟨["DEEPSEEK_API_KEY"], "DEEPSEEK_MODEL", "DEEPSEEK_CHAT_URL", "deepseek-chat",
        "https://api.deepseek.com/chat/completions"⟩
  | groq =>
      ⟨["GROQ_API_KEY"], "GROQ_MODEL", "GROQ_CHAT_URL", "llama-3.3-70b-versatile",
        "https://api.groq.com/openai/v1/chat/completions"⟩

def versionVariable : String := "CLAUDE_VERSION"

def settingVariables : List String :=
  versionVariable :: all.flatMap fun vendor =>
    vendor.defaults.keyVariables ++ [vendor.defaults.modelVariable, vendor.defaults.urlVariable]

def resolve (name : String) : Except Failure Vendor :=
  let key := Text.lower (Text.trim name)
  match (aliases.lookup key).or (all.find? fun vendor => vendor.name = key) with
  | some vendor => .ok vendor
  | none =>
      .error (.configuration name ("a known vendor (one of " ++ ", ".intercalate (all.map Vendor.name) ++ ")") "")

def version (vendor : Vendor) (environment : Environment) : String :=
  match vendor with
  | claude => (environment.value? versionVariable).getD Claude.defaultVersion
  | _ => ""

end Vendor

namespace Settings

/-- A vendor's settings from the environment. A model given by name goes before the environment's; any other
setting may be overridden. -/
def ofEnvironment (environment : Environment) (name : String) (model : Option String) (overrides : List Override) :
    Except Failure Settings := do
  let vendor ← Vendor.resolve name
  let defaults := vendor.defaults
  match defaults.keyVariables.findSome? environment.value? with
  | none => throw (.configuration vendor.name "API key" (defaults.keyVariables.headD ""))
  | some key =>
      overrides.foldlM Override.apply {
        vendor := vendor.name
        apiKey := key
        model := ((model.filter fun model => !model.isEmpty).or (environment.value? defaults.modelVariable)).getD
          defaults.model
        url := (environment.value? defaults.urlVariable).getD defaults.url
        version := vendor.version environment }

def checkOverrides (overrides : List Override) : Except Failure Unit :=
  if overrides.any Override.isFixed then .error (.foreign .wrongType "a setting is given twice") else .ok ()

/-- A vendor's settings from the environment and the working directory's own file of variables. -/
def ofSurroundings (environment : Environment) (files : Files) (name : String) (model : Option String)
    (overrides : List Override) : Except Failure Settings := do
  checkOverrides overrides
  ofEnvironment (← environment.loadDefault files) name model overrides

end Settings

namespace Vendor.Provider

/-- The provider for a vendor, with settings as given or else from the surroundings. -/
def ofVendor (environment : Environment) (files : Files) (name : String) (model : Option String)
    (settings : Option Settings) (overrides : List Override) : Except Failure Provider := do
  Settings.checkOverrides overrides
  let vendor ← Vendor.resolve name
  match settings with
  | none => return ofSettings vendor.adapter (← Settings.ofSurroundings environment files vendor.name model overrides)
  | some settings =>
      match model.filter fun model => !model.isEmpty with
      | some model => return ofSettings vendor.adapter (settings.withModel model)
      | none => return ofSettings vendor.adapter settings

end Vendor.Provider

end Parley

