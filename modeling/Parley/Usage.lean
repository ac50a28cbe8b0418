import Parley.Failure

namespace Parley

/-- What one call used. A vendor may name its model by any JSON value. -/
structure Usage where
  prompt : Int := 0
  completion : Int := 0
  total : Int := 0
  model : Json := ""
  provider : String := ""
  elapsed : Number := .float 0.0

namespace Usage

/-- The usage with its total filled in: a zero total stands for the sum of prompt and completion. -/
def filled (usage : Usage) : Usage :=
  if usage.total = 0 then { usage with total := usage.prompt + usage.completion } else usage

/-- The sum of two usages, labelled as the first one unless it has no label. -/
def add (left right : Usage) : Usage :=
  filled {
    prompt := left.prompt + right.prompt
    completion := left.completion + right.completion
    total := left.total + right.total
    model := left.model.orElse right.model
    provider := if left.provider.isEmpty then right.provider else left.provider
    elapsed := left.elapsed + right.elapsed }

instance : Add Usage := ⟨add⟩

/-- The sum of two usages whose times have a sum. -/
def plus (left right : Usage) : Except Failure Usage :=
  if left.elapsed.canAdd right.elapsed then .ok (left + right) else .error .beyondFloats

def text (usage : Usage) : Except Failure String :=
  Failure.writing [usage.prompt, usage.completion, usage.total]
    s!"{Text.intText usage.prompt} + {Text.intText usage.completion} = {Text.intText usage.total}"

def sum (usages : List Usage) : Usage := usages.foldl add {}

end Usage

structure Tally where
  prompt : Int := 0
  completion : Int := 0
  total : Int := 0
  elapsed : Float := 0.0
  /-- How often each function was called, in the order of the first calls. -/
  functionCounts : Table Nat := []
  calls : List Usage := []

namespace Tally

def bump (name : String) (counts : Table Nat) : Table Nat := counts.put name ((counts.lookup name).getD 0 + 1)

/-- Adds the tokens of one call and nothing else of it. -/
def addTokens (tally : Tally) (usage : Usage) : Tally :=
  { tally with
    prompt := tally.prompt + usage.prompt
    completion := tally.completion + usage.completion
    total := tally.total + usage.total }

/-- Adds one call. A call that led to a function with a name is counted for that function, too. -/
def record (tally : Tally) (usage : Usage) (function : Option String) : Tally :=
  { tally.addTokens usage with
    elapsed := tally.elapsed + usage.elapsed.toFloat
    functionCounts :=
      match function with
      | some name => if name.isEmpty then tally.functionCounts else bump name tally.functionCounts
      | none => tally.functionCounts
    calls := tally.calls ++ [usage] }

def asJson (tally : Tally) : Json :=
  .object [
    ("total_tokens", .int tally.total),
    ("total_prompt_tokens", .int tally.prompt),
    ("total_completion_tokens", .int tally.completion),
    ("total_elapsed_seconds", .number (.float (Decimal.rounded 3 tally.elapsed))),
    ("function_usage", .object (tally.functionCounts.map fun entry => (entry.1, .int entry.2))),
    ("calls", .int tally.calls.length)]

def rule : String := String.ofList (List.replicate 60 '=')

/-- The function counts, most used first; functions used equally often keep their order. -/
def ranking (tally : Tally) : List (String × Nat) :=
  tally.functionCounts.mergeSort fun left right => right.2 ≤ left.2

def summary (tally : Tally) : Except Failure String :=
  Failure.writing [tally.total, tally.prompt, tally.completion] <| "\n".intercalate (
    ["\n" ++ rule,
      "📊 Usage Summary",
      rule,
      "Total Tokens: " ++ Text.groupedText tally.total,
      "  - Prompt: " ++ Text.groupedText tally.prompt,
      "  - Completion: " ++ Text.groupedText tally.completion,
      "Elapsed: " ++ Decimal.fixed 3 tally.elapsed ++ "s",
      "Calls: " ++ Text.natText tally.calls.length] ++
    (if tally.functionCounts.isEmpty then []
      else "\nFunction Usage:" ::
        tally.ranking.map fun entry => s!"  - {entry.1}: {Text.natText entry.2} calls") ++
    [rule ++ "\n"])

end Tally

end Parley

