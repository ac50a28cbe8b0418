import Parley.Turn
import Parley.Usage

namespace Parley

structure Dialogue where
  turns : List Turn := []
  tally : Tally := {}

namespace Dialogue

def opened (systemPrompt : Option String) : Dialogue :=
  match systemPrompt with
  | some prompt => if prompt.isEmpty then {} else { turns := [.system prompt] }
  | none => {}

def append (dialogue : Dialogue) (turn : Turn) : Dialogue :=
  { dialogue with turns := dialogue.turns ++ [turn] }

def extend (dialogue : Dialogue) (turns : List Turn) : Dialogue :=
  { dialogue with turns := dialogue.turns ++ turns }

def reset (_ : Dialogue) : Dialogue := {}

def recordUsage (dialogue : Dialogue) (usage : Usage) (function : Option String) : Dialogue :=
  { dialogue with tally := dialogue.tally.record usage function }

/-- Adds one vendor call whose time may be out of range. Such a call fails, and only its tokens are added. -/
def recordAny (dialogue : Dialogue) (usage : Usage) (function : Option String) : Except Failure Unit × Dialogue :=
  if usage.elapsed.hasFloat then (.ok (), dialogue.recordUsage usage function)
  else (.error .beyondFloats, { dialogue with tally := dialogue.tally.addTokens usage })

def systemPrompt (dialogue : Dialogue) : String :=
  "\n".intercalate ((dialogue.turns.filter (·.role = .system)).map fun turn => turn.content.shown)

def asJson (dialogue : Dialogue) : Json :=
  .object [
    ("turn_count", .int dialogue.turns.length),
    ("turns", .list (dialogue.turns.map Turn.record)),
    ("usage", dialogue.tally.asJson)]

def text (dialogue : Dialogue) : Except Failure String :=
  Failure.writing [dialogue.tally.total]
    s!"Dialogue(turns={Text.natText dialogue.turns.length}, total_tokens={Text.intText dialogue.tally.total})"

end Dialogue

end Parley

