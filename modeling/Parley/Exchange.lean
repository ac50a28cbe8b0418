import Parley.Dialogue
import Parley.Extraction.Search
import Parley.Reply

namespace Parley

inductive Stage where
  | awaitingInput
  | requestSent
  | callDetected
  | answerReady
  | providerFailed
  deriving DecidableEq, Repr

def Stage.name : Stage → String
  | .awaitingInput => "awaiting_user_input"
  | .requestSent => "request_sent"
  | .callDetected => "function_call_detected"
  | .answerReady => "answer_ready"
  | .providerFailed => "provider_error"

structure Exchange where
  pending : List Turn
  /-- The usage of each call to the vendor, with the function that it led to. -/
  charges : List (Usage × Option String) := []
  trace : List Stage := [.awaitingInput]
  call : Option Tool.Call := none
  outcome : Option Tool.Outcome := none
  ambiguity : Option Extraction.Ambiguity := none
  citations : List Citation := []
  ratings : List SafetyRating := []
  journal : Journal := []
  /-- The lines shown while the exchange runs. -/
  shown : List String := []

inductive Ending where
  /-- The vendor answered. -/
  | answered (text : String) (finish : Finish)
  /-- The vendor stopped short. -/
  | rejected (failure : Failure) (finish : Finish)
  /-- The vendor's call could not be carried out. -/
  | uncalled (failure : Failure)
  /-- The vendor could not be reached or understood. -/
  | unheard (failure : Failure)
  /-- Something failed that no exchange reports. -/
  | broken (failure : Failure)

structure Result where
  text : String
  usage : Usage
  finish : Finish
  failure : Option Failure := none
  call : Option Tool.Call := none
  outcome : Option Tool.Outcome := none
  ambiguity : Option Extraction.Ambiguity := none
  citations : List Citation := []
  ratings : List SafetyRating := []
  trace : List Stage := []
  elapsed : Float := 0.0
  calls : Nat := 0

def Result.ok (result : Result) : Bool := result.failure.isNone

namespace Exchange

def begin (content : Content) : Exchange := { pending := [.user content] }

def reach (exchange : Exchange) (stage : Stage) : Exchange := { exchange with trace := exchange.trace ++ [stage] }

def log (exchange : Exchange) (records : Journal) : Exchange := { exchange with journal := exchange.journal ++ records }

def warn (exchange : Exchange) (text : String) : Exchange := exchange.log [⟨.warning, .assistant, text⟩]

def tell (exchange : Exchange) (verbose : Bool) (line : String) : Exchange :=
  if verbose then { exchange with shown := exchange.shown ++ [line] } else exchange

def charge (exchange : Exchange) (usage : Usage) (function : Option String) : Exchange :=
  { exchange with charges := exchange.charges ++ [(usage, function)] }

/-- Keeps the annotations of a reply, each kind if the reply carries any. -/
def note (exchange : Exchange) (reply : Reply) : Exchange :=
  { exchange with
    citations := if reply.citations.isEmpty then exchange.citations else reply.citations
    ratings := if reply.ratings.isEmpty then exchange.ratings else reply.ratings }

def usage (exchange : Exchange) : Usage := Usage.sum (exchange.charges.map Prod.fst)

def commit (exchange : Exchange) (dialogue : Dialogue) (answer : Option String) : Dialogue :=
  let dialogue := dialogue.extend (exchange.pending ++ answer.toList.map fun text => Turn.assistant (.text text))
  exchange.charges.foldl (fun dialogue charge => dialogue.recordUsage charge.1 charge.2) dialogue

def result (exchange : Exchange) (elapsed : Float) (text : String) (finish : Finish) (failure : Option Failure) :
    Result where
  text := text
  usage := exchange.usage
  finish := finish
  failure := failure
  call := exchange.call
  outcome := exchange.outcome
  ambiguity := exchange.ambiguity
  citations := exchange.citations
  ratings := exchange.ratings
  trace := exchange.trace ++ [.awaitingInput]
  elapsed := elapsed
  calls := exchange.charges.length

def settle (exchange : Exchange) (dialogue : Dialogue) : Ending → Dialogue
  | .answered text _ => exchange.commit dialogue (some text)
  | .rejected _ _ => exchange.commit dialogue none
  | .uncalled _ => exchange.commit dialogue none
  | .unheard _ => dialogue
  | .broken _ => dialogue

def conclude (exchange : Exchange) (elapsed : Float) : Ending → Except Failure Result
  | .answered text finish => .ok (exchange.result elapsed text finish none)
  | .rejected failure finish => .ok (exchange.result elapsed failure.headline finish (some failure))
  | .uncalled failure => .ok (exchange.result elapsed failure.headline .functionCall (some failure))
  | .unheard failure => .ok (exchange.result elapsed failure.headline .error (some failure))
  | .broken failure => .error failure

end Exchange

end Parley

