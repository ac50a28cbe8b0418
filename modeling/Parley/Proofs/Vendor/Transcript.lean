import Parley.Vendor.Catalogue
import Mathlib.Data.List.Chain

namespace Parley

def Content.said : Content → String
  | text value => value
  | nothing => ""

namespace Vendor

inductive Speaker where
  | user
  | assistant
  deriving DecidableEq

def Speaker.name : Speaker → String
  | .user => "user"
  | .assistant => "assistant"

structure Line where
  speaker : Speaker
  content : Content

structure Stretch where
  speaker : Speaker
  first : Content
  others : List Content := []

namespace Stretch

def lines (stretch : Stretch) : List Line := (stretch.first :: stretch.others).map (Line.mk stretch.speaker)

def content (stretch : Stretch) : Content :=
  if stretch.others.isEmpty then stretch.first
  else .text ("\n\n".intercalate ((stretch.first :: stretch.others).map Content.shown))

def extended (stretch : Stretch) (content : Content) : Stretch :=
  { stretch with others := stretch.others ++ [content] }

end Stretch

/-- The stretches of a conversation: together they are all of it, and none can be longer. -/
structure AreStretches (stretches : List Stretch) (lines : List Line) : Prop where
  whole : stretches.flatMap Stretch.lines = lines
  longest : stretches.IsChain fun stretch next => stretch.speaker ≠ next.speaker

def Line.message (names : Speaker → String) (line : Line) : Message := ⟨names line.speaker, line.content⟩

def Stretch.message (names : Speaker → String) (stretch : Stretch) : Message := ⟨names stretch.speaker, stretch.content⟩

def Alternate (messages : List Message) : Prop := messages.IsChain fun message next => message.role ≠ next.role

namespace Chat

/-- The system's text goes before the lines, each of which is a message. -/
def Holds (system : String) (lines : List Line) (body : Fields) : Prop :=
  body.lookup "messages" = some (.list
    (((if system = "" then [] else [(⟨"system", system⟩ : Message)]) ++
      lines.map (Line.message Speaker.name)).map content))

end Chat

namespace Claude

/-- The system's text stands apart. The stretches are the messages, after an opener where the assistant speaks first. -/
def Holds (system : String) (lines : List Line) (body : Fields) : Prop :=
  body.lookup "system" = (if system = "" then none else some (.text system)) ∧
  ∃ stretches messages, AreStretches stretches lines ∧
    messages = (if stretches.head?.map Stretch.speaker = some .assistant then [opener] else []) ++
      stretches.map (Stretch.message Speaker.name) ∧
    body.lookup "messages" = some (.list (messages.map content)) ∧
    Alternate messages ∧ ∀ first ∈ messages.head?, first.role = "user"

end Claude

namespace Gemini

def speakerName : Speaker → String
  | .user => "user"
  | .assistant => "model"

def preamble (system : String) : List Line :=
  if system = "" then [] else [⟨.user, system⟩, ⟨.assistant, acknowledgement⟩]

/-- The stretches of the preamble and the conversation are the messages. -/
def Holds (system : String) (lines : List Line) (body : Fields) : Prop :=
  ∃ stretches messages, AreStretches stretches (preamble system ++ lines) ∧
    messages = stretches.map (Stretch.message speakerName) ∧
    body.lookup "contents" = some (.list (messages.map content)) ∧ Alternate messages

end Gemini

def Holds : Vendor → String → List Line → Fields → Prop
  | gemini => Gemini.Holds
  | claude => Claude.Holds
  | gpt | mistral | deepseek | groq => Chat.Holds

namespace Stretch

end Stretch

section

variable {names : Speaker → String} (apart : names .user ≠ names .assistant)

include apart

end

end Vendor

end Parley

