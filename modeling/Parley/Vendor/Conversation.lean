import Parley.Turn

namespace Parley.Vendor

/-- The non-empty system texts, the given prompt first, one to a line. -/
def systemText (turns : List Turn) (prompt : String) : String :=
  "\n".intercalate ((.text prompt :: (turns.filter (·.role = .system)).map Turn.content).filterMap Content.spoken?)

def spokenTurns (turns : List Turn) : List Turn := turns.filter (·.role ≠ .system)

structure Message where
  role : String
  content : Content
  deriving DecidableEq, Repr

/-- Merges each run of neighbours that belong together into one. -/
def mergeRuns {α : Type} (together : α → α → Bool) (merge : α → α → α) : List α → List α
  | [] => []
  | first :: rest => go first rest
where
  go (current : α) : List α → List α
    | [] => [current]
    | next :: rest =>
        if together current next then go (merge current next) rest else current :: go next rest

def joinTexts (first second : String) : String := first ++ "\n\n" ++ second

def joinContents (first second : Content) : Content := .text (joinTexts first.shown second.shown)

def alternating (messages : List Message) : List Message :=
  mergeRuns (fun first second => first.role = second.role)
    (fun first second => ⟨first.role, joinContents first.content second.content⟩) messages

end Parley.Vendor

