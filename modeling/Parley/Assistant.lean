import Parley.Exchange
import Parley.Toolbox
import Parley.Vendor.Adapter

namespace Parley

structure Options where
  /-- The persona, sent before the system turns of every request. It survives a reset. -/
  systemPrompt : Option String := none
  model : Option String := none
  temperature : Option Json := none
  maxTokens : Option Json := none
  timeout : Option Json := none
  offerFunctions : Bool := true
  verbose : Bool := false

namespace Options

def overrides (options : Options) : Bool :=
  options.temperature.isSome || options.maxTokens.isSome || options.timeout.isSome

def applied (options : Options) (provider : Vendor.Provider) : Vendor.Provider where
  adapter := provider.adapter
  settings := { provider.settings with
    temperature := options.temperature.getD provider.settings.temperature
    maxTokens := options.maxTokens.getD provider.settings.maxTokens
    timeout := options.timeout.getD provider.settings.timeout }
  timeout := options.timeout.getD provider.timeout

end Options

structure Assistant where
  provider : Vendor.Provider
  toolbox : Toolbox := {}
  options : Options := {}
  /-- The limit on the length of a call written as JSON. -/
  limit : Int := Extraction.defaultLimit

/-- What comes of a text sent: the result, unless something failed that is not reported, and all that has changed. -/
structure Report where
  result : Except Failure Result
  dialogue : Dialogue
  network : Network
  journal : Journal
  shown : List String

namespace Assistant

/-- An assistant whose options apply to its own copy of the provider. -/
def ofProvider (provider : Vendor.Provider) (toolbox : Toolbox) (options : Options) : Assistant where
  provider := options.applied provider
  toolbox := toolbox
  options := options

def text (assistant : Assistant) : String :=
  s!"Orchestrator(provider={assistant.provider.text}, functions={Text.quotedList assistant.toolbox.names})"

/-- The functions offered with a request: none with the one that follows a call. -/
def offered (assistant : Assistant) (followUp : Bool) : List Tool.Spec :=
  if followUp || !assistant.options.offerFunctions then [] else assistant.toolbox.specs

def question (assistant : Assistant) (dialogue : Dialogue) (exchange : Exchange) (followUp : Bool) :
    Vendor.Question where
  turns := dialogue.turns ++ exchange.pending
  systemPrompt := assistant.options.systemPrompt.getD ""
  functions := assistant.offered followUp
  model := assistant.options.model

/-- The ending that a failed request leads to. Only failures of the network and of reading are reported. -/
def unanswered (assistant : Assistant) (exchange : Exchange) (failure : Failure) : Exchange × Ending :=
  match failure with
  | .transport .. | .malformed .. =>
      let exchange := exchange.warn s!"Provider call failed: {failure.headline}"
      let exchange := exchange.tell assistant.options.verbose s!"[orchestrator] provider error: {failure.headline}"
      (exchange.reach .providerFailed, .unheard failure)
  | failure => (exchange, .broken failure)

def tokensLine (usage : Usage) : Except Failure String :=
  Failure.writing [usage.total, usage.prompt, usage.completion]
    s!"[orchestrator] tokens: {Text.groupedText usage.total} (prompt: {Text.groupedText usage.prompt}, completion: {Text.groupedText usage.completion})"

def receive (assistant : Assistant) (exchange : Exchange) (reply : Reply) : Except Failure Exchange :=
  if assistant.options.verbose then (tokensLine reply.usage).map fun line => (exchange.tell true line).note reply
  else .ok (exchange.note reply)

def rejection (assistant : Assistant) (reply : Reply) : Failure :=
  .rejected assistant.provider.adapter.name
    (if reply.vendorFinish.isEmpty then reply.finish.name else reply.vendorFinish) reply.text

def reject (assistant : Assistant) (exchange : Exchange) (reply : Reply) : Exchange × Ending :=
  let failure := assistant.rejection reply
  let exchange := (exchange.charge reply.usage none).warn failure.headline
  (exchange.reach .providerFailed, .rejected failure reply.finish)

/-- The answer is the reply's text, or the function's result where the reply has none. -/
def answer (exchange : Exchange) (reply : Reply) : Exchange × Ending :=
  let text := if reply.text.isEmpty then (exchange.outcome.map Tool.Outcome.result).getD "" else reply.text
  (exchange.reach .answerReady, .answered text reply.finish)

def uncalled (exchange : Exchange) (failure : Failure) : Exchange × Ending :=
  (exchange.warn s!"Function call not executed: {failure.headline}", .uncalled failure)

def reading (assistant : Assistant) (reply : Reply) : Extraction.Reading where
  provider := assistant.provider.adapter.name
  single := assistant.provider.adapter.single
  calls := assistant.provider.adapter.calls reply.body
  text := reply.text

/-- Carries out a call. Without an ending, the vendor is to be asked once more. What fails outside the function is not
reported. -/
def carryOut (assistant : Assistant) (exchange : Exchange) (call : Tool.Call) : Exchange × Option Ending :=
  let (result, journal) := assistant.toolbox.invoke call.name call.arguments
  let exchange := exchange.log journal
  match result with
  | .error (.foreign kind text) => (exchange, some (.broken (.foreign kind text)))
  | .error failure =>
      let (exchange, ending) := uncalled exchange failure
      (exchange, some ending)
  | .ok result =>
      let outcome : Tool.Outcome := ⟨call.name, call.arguments, result⟩
      ({ exchange with outcome := some outcome, pending := exchange.pending ++ [.function outcome] }, none)

def pursue (assistant : Assistant) (exchange : Exchange) (reply : Reply)
    (finding : Except Failure Extraction.Finding) : Exchange × Option Ending :=
  match finding with
  | .error (.unknownFunction name available) =>
      let exchange := (exchange.charge reply.usage none).reach .callDetected
      let (exchange, ending) := uncalled exchange (.unknownFunction name available)
      (exchange, some ending)
  | .error failure => (exchange, some (.broken failure))
  | .ok finding =>
      let exchange := { exchange with ambiguity := finding.ambiguity }
      match finding.call with
      | none =>
          let (exchange, ending) := answer (exchange.charge reply.usage none) reply
          (exchange, some ending)
      | some call =>
          let exchange := ({ exchange with call := some call }.charge reply.usage (some call.name)).reach .callDetected
          let exchange := exchange.tell assistant.options.verbose s!"[orchestrator] function call: {call.text}"
          assistant.carryOut exchange call

def consider (assistant : Assistant) (exchange : Exchange) (reply : Reply) : Exchange × Option Ending :=
  let (finding, journal) := Extraction.search assistant.limit (assistant.reading reply) (assistant.offered false)
  assistant.pursue (exchange.log journal) reply finding

def hear (assistant : Assistant) (exchange : Exchange) (answer : Except Failure Reply) :
    Exchange × Except Ending Reply :=
  match answer with
  | .error failure =>
      let (exchange, ending) := assistant.unanswered exchange failure
      (exchange, .error ending)
  | .ok reply =>
      match assistant.receive exchange reply with
      | .error failure => (exchange, .error (.broken failure))
      | .ok exchange =>
          if reply.isRejection then
            let (exchange, ending) := assistant.reject exchange reply
            (exchange, .error ending)
          else (exchange, .ok reply)

def first (assistant : Assistant) (exchange : Exchange) (answer : Except Failure Reply) : Exchange × Option Ending :=
  match assistant.hear exchange answer with
  | (exchange, .error ending) => (exchange, some ending)
  | (exchange, .ok reply) => assistant.consider exchange reply

def second (assistant : Assistant) (exchange : Exchange) (answer : Except Failure Reply) : Exchange × Ending :=
  match assistant.hear exchange answer with
  | (exchange, .error ending) => (exchange, ending)
  | (exchange, .ok reply) => Assistant.answer (exchange.charge reply.usage none) reply

def report (dialogue : Dialogue) (started : Float) (exchange : Exchange) (ending : Ending) (network : Network) :
    Report where
  result := exchange.conclude (network.clock - started) ending
  dialogue := exchange.settle dialogue ending
  network := network
  journal := exchange.journal
  shown := exchange.shown

def send (assistant : Assistant) (dialogue : Dialogue) (content : Content) (network : Network) : Report :=
  let exchange := (Exchange.begin content).reach .requestSent
  let (reply, later) := assistant.provider.ask (assistant.question dialogue exchange false) network
  match assistant.first exchange reply with
  | (exchange, some ending) => report dialogue network.clock exchange ending later
  | (exchange, none) =>
      let exchange := exchange.reach .requestSent
      let (reply, latest) := assistant.provider.ask (assistant.question dialogue exchange true) later
      let (exchange, ending) := assistant.second exchange reply
      report dialogue network.clock exchange ending latest

end Assistant

end Parley

