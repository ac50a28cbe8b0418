import Parley.Assistant
import Parley.CommandLine.Prompt

namespace Parley.CommandLine

def finishLines (finish : Finish) : List String :=
  if finish = .stop || finish = .functionCall then [] else ["Finish Reason: " ++ finish.name]

def citationLines (citations : List Citation) : List String :=
  if citations.isEmpty then [] else "Citations:" :: citations.map Citation.text

def ratingLines (ratings : List SafetyRating) : List String :=
  if ratings.isEmpty then [] else ["Safety Ratings: " ++ ", ".intercalate (ratings.map SafetyRating.text)]

def seconds (time : Number) : String := Decimal.fixed 2 time.toFloat

def usageLine (result : Result) : Except Failure String := do
  return s!"[tokens {← result.usage.text}, {Text.natText result.calls} call(s), {seconds (.float result.elapsed)}s]"

def annotationLines (result : Result) : List String :=
  finishLines result.finish ++ citationLines result.citations ++ ratingLines result.ratings

def footer (result : Result) : Except Failure (List String) := do
  return annotationLines result ++ [← usageLine result]

/-- A chat under way: what has been said, used, printed and reported, and the network that it talks to. -/
structure Chat where
  network : Network
  dialogue : Dialogue := {}
  usage : Usage := {}
  printed : List String := []
  journal : Journal := []

inductive Standing where
  | goesOn
  | over
  | broken (failure : Failure)

namespace Chat

def print (chat : Chat) (lines : List String) : Chat := { chat with printed := chat.printed ++ lines }

def greeting (assistant : Assistant) : List String :=
  [s!"Running {assistant.provider.adapter.name}: {assistant.provider.settings.model}",
    "Type multiple lines and then end with ^D [or ^Z on Windows] for answer.",
    "'quit' or 'exit' work too. To clear history 'new' or 'clear'",
    "To show dialogue history 'show' or 'history'",
    "To show optional system content 'system'"]

def invitation : String := "\nYour question: "

def statistics (chat : Chat) : Except Failure String :=
  Failure.writing [chat.usage.prompt, chat.usage.completion, chat.usage.total]
    s!"Statistics: Elapsed time: {seconds chat.usage.elapsed} secs, Tokens in: {Text.intText chat.usage.prompt} out: {Text.intText chat.usage.completion} all: {Text.intText chat.usage.total}"

def recollection (chat : Chat) : List String :=
  chat.dialogue.turns.map fun turn => turn.role.name ++ ": " ++ turn.content.shown

def personaLine (assistant : Assistant) : String :=
  (assistant.options.systemPrompt.filter fun prompt => !prompt.isEmpty).getD "(no system prompt)"

def isFatal : Option Failure → Bool
  | some (.transport ..) => true
  | some (.malformed ..) => true
  | _ => false

def send (assistant : Assistant) (chat : Chat) (prompt : String) : Chat × Standing :=
  let report := assistant.send chat.dialogue (.text prompt) chat.network
  let chat := {
    network := report.network
    dialogue := report.dialogue
    usage := chat.usage
    printed := chat.printed ++ report.shown
    journal := chat.journal ++ report.journal : Chat }
  match report.result with
  | .error failure => (chat, .broken failure)
  | .ok result =>
      let chat := { chat with usage := chat.usage + result.usage }
      if isFatal result.failure then (chat.print ["Error (aborting): " ++ result.text], .over)
      else
        let chat := chat.print (["> " ++ result.text] ++ annotationLines result)
        match usageLine result with
        | .error failure => (chat, .broken failure)
        | .ok line => (chat.print [line], .goesOn)

def step (assistant : Assistant) (chat : Chat) (prompt : String) : Chat × Standing :=
  if prompt.isEmpty then (chat, .over)
  else match directive? prompt with
    | some .leave => (chat, .over)
    | some .forget => ({ chat with dialogue := chat.dialogue.reset }, .goesOn)
    | some .recall => (chat.print chat.recollection, .goesOn)
    | some .persona => (chat.print [personaLine assistant], .goesOn)
    | none => chat.send assistant prompt

/-- Takes prompts from the input for as long as the chat goes on. Beside the chat stands the failure that broke it
off, if one did. -/
def run (assistant : Assistant) (chat : Chat) : List Read → Chat × Option Failure
  | [] => (chat.print [invitation], none)
  | read :: later =>
      match (chat.print [invitation]).step assistant (readPrompt (read :: later)).1 with
      | (after, .goesOn) => run assistant after (readPrompt (read :: later)).2
      | (after, .over) => (after, none)
      | (after, .broken failure) => (after, some failure)
  termination_by input => input.length
  decreasing_by exact readPrompt_length (List.cons_ne_nil read later)

def close (chat : Chat) : Option Failure → Chat × Option Failure
  | some failure => (chat, some failure)
  | none =>
      match chat.statistics with
      | .error failure => (chat, some failure)
      | .ok line => (chat.print [line], none)

def whole (assistant : Assistant) (input : List Read) (network : Network) : Chat × Option Failure :=
  let (chat, failure) := run assistant { network := network, printed := greeting assistant } input
  chat.close failure

end Chat

end Parley.CommandLine

