import Parley.Awaiting
import Parley.Proofs.Exchange.Commit
import Parley.Proofs.Scenario

namespace Parley

namespace Vendor.Provider

def posted (provider : Provider) (question : Question) : Post :=
  let request := provider.adapter.request provider.settings question
  ⟨request.url, Network.introduced request.headers, .object request.body, provider.timeout⟩

theorem network_ask (provider : Provider) (question : Question) (network : Network) :
    ∃ post : Post, (provider.ask question network).2 = network.after post ∧
      { post with headers := Network.introduced post.headers } = provider.posted question := by
  let request := provider.adapter.request provider.settings question
  refine ⟨⟨request.url, request.headers, .object request.body, provider.timeout⟩, ?_, rfl⟩
  have sent : ∀ request : Request, (provider.send request network).2 =
      network.after ⟨request.url, request.headers, .object request.body, provider.timeout⟩ := by
    intro request
    simp only [send, Network.post]
    split <;> rfl
  rw [← sent]
  simp only [ask]
  split <;> rfl

end Vendor.Provider

def Stage.paths : List (List Stage) :=
  [[.awaitingInput, .requestSent, .providerFailed, .awaitingInput],
    [.awaitingInput, .requestSent, .answerReady, .awaitingInput],
    [.awaitingInput, .requestSent, .callDetected, .awaitingInput],
    [.awaitingInput, .requestSent, .callDetected, .requestSent, .answerReady, .awaitingInput],
    [.awaitingInput, .requestSent, .callDetected, .requestSent, .providerFailed, .awaitingInput]]

def Failure.isVendors : Failure → Bool
  | .transport .. | .malformed .. | .rejected .. => true
  | _ => false

namespace Ending

def returns : Ending → Bool
  | .broken _ => false
  | _ => true

def failure? : Ending → Option Failure
  | .answered .. => none
  | .rejected failure _ | .uncalled failure | .unheard failure | .broken failure => some failure

def paths : Ending → List (List Stage)
  | .answered .. =>
      [[.awaitingInput, .requestSent, .answerReady],
        [.awaitingInput, .requestSent, .callDetected, .requestSent, .answerReady]]
  | .rejected .. | .unheard _ =>
      [[.awaitingInput, .requestSent, .providerFailed],
        [.awaitingInput, .requestSent, .callDetected, .requestSent, .providerFailed]]
  | .uncalled _ => [[.awaitingInput, .requestSent, .callDetected]]
  | .broken _ =>
      [[.awaitingInput, .requestSent], [.awaitingInput, .requestSent, .callDetected],
        [.awaitingInput, .requestSent, .callDetected, .requestSent]]

end Ending

theorem Exchange.conclude_eq_ok {exchange : Exchange} {elapsed : Float} {ending : Ending} {result : Result}
    (concluded : exchange.conclude elapsed ending = .ok result) :
    ending.returns = true ∧ ∃ text finish, result = exchange.result elapsed text finish ending.failure? := by
  cases ending with
  | broken => cases concluded
  | answered | rejected | uncalled | unheard => exact ⟨rfl, _, _, (Except.ok.inj concluded).symm⟩

theorem Exchange.conclude_ok {exchange : Exchange} {elapsed : Float} {ending : Ending} {result : Result}
    (concluded : exchange.conclude elapsed ending = .ok result) :
    ending.returns = true ∧ result.trace = exchange.trace ++ [.awaitingInput] ∧ result.failure = ending.failure? := by
  obtain ⟨returns, _, _, rfl⟩ := conclude_eq_ok concluded
  exact ⟨returns, rfl, rfl⟩

namespace Assistant

def Asks (assistant : Assistant) (dialogue : Dialogue) (content : Content) (network : Network) (call : Tool.Call) :
    Prop :=
  ∃ reply, (assistant.provider.ask (assistant.opening dialogue content) network).1 = .ok reply ∧
    reply.isRejection = false ∧ assistant.Finds reply call

/-- The first reply asks for a call, and the function returns. -/
def Leads (assistant : Assistant) (dialogue : Dialogue) (content : Content) (network : Network)
    (outcome : Tool.Outcome) : Prop :=
  ∃ call result, assistant.Asks dialogue content network call ∧
    (assistant.toolbox.invoke call.name call.arguments).1 = .ok result ∧
    outcome = ⟨call.name, call.arguments, result⟩

theorem Asks.unique {assistant : Assistant} {dialogue : Dialogue} {content : Content} {network : Network}
    {call other : Tool.Call} (asks : assistant.Asks dialogue content network call)
    (again : assistant.Asks dialogue content network other) : call = other := by
  obtain ⟨reply, answered, _, finds⟩ := asks
  obtain ⟨second, same, _, findsToo⟩ := again
  obtain rfl : reply = second := Except.ok.inj (answered.symm.trans same)
  exact finds.unique findsToo

theorem Leads.unique {assistant : Assistant} {dialogue : Dialogue} {content : Content} {network : Network}
    {outcome other : Tool.Outcome} (leads : assistant.Leads dialogue content network outcome)
    (again : assistant.Leads dialogue content network other) : outcome = other := by
  obtain ⟨call, result, asks, returned, rfl⟩ := leads
  obtain ⟨second, value, asksToo, returnedToo, rfl⟩ := again
  obtain rfl := asks.unique asksToo
  obtain rfl : result = value := Except.ok.inj (returned.symm.trans returnedToo)
  rfl

section

variable {assistant : Assistant} {dialogue : Dialogue} {content : Content} {network later : Network} {reply : Reply}
  {call : Tool.Call} {result : Except Failure String} {runs : Journal}

theorem Hears.asks_iff (hears : assistant.Hears (assistant.opening dialogue content) network reply later) :
    assistant.Asks dialogue content network call ↔ assistant.Finds reply call := by
  simp [Asks, hears.answered, hears.accepted]

theorem Calls.asks (calls : assistant.Calls (assistant.opening dialogue content) network reply call result runs later) :
    assistant.Asks dialogue content network call := calls.hears.asks_iff.2 calls.finds

theorem Calls.leads {result : String}
    (calls : assistant.Calls (assistant.opening dialogue content) network reply call (.ok result) runs later) :
    assistant.Leads dialogue content network ⟨call.name, call.arguments, result⟩ :=
  ⟨call, result, calls.asks, by rw [calls.invoked], rfl⟩

theorem Stops.runs_eq {question : Vendor.Question} {before trail : Trail} {ending : Ending}
    (stops : assistant.Stops question network before trail ending later) : trail.runs = before.runs := by
  cases stops with
  | unheard | lost | unshown | rejected => rfl

def latest (assistant : Assistant) (dialogue : Dialogue) (content : Content) (network : Network)
    (outcome : Tool.Outcome) : Network :=
  (assistant.provider.ask ((assistant.opening dialogue content).following outcome)
    (assistant.provider.ask (assistant.opening dialogue content) network).2).2

theorem Course.path {trail : Trail} {ending : Ending}
    (course : assistant.Course dialogue content network trail ending later) : trail.trace ∈ ending.paths := by
  cases course with
  | stopped stops =>
    cases stops with
    | unheard | lost | unshown | rejected => exact .head _
  | unsearchable | unknown | answered | uncalled => exact .head _
  | untold => exact .tail _ (.head _)
  | stoppedAgain calls stops =>
    cases stops with
    | unheard | rejected => exact .tail _ (.head _)
    | lost | unshown => exact .tail _ (.tail _ (.head _))
  | answeredAgain => exact .tail _ (.head _)

/-- At most one function is run, the one that the first reply asks for, and only once. -/
theorem Course.runs_cases {trail : Trail} {ending : Ending}
    (course : assistant.Course dialogue content network trail ending later) :
    trail.runs = [] ∨ ∃ call, assistant.Asks dialogue content network call ∧
      trail.runs = [Toolbox.invoking call.name] ∧ call.name ∈ assistant.toolbox.names := by
  have one {reply : Reply} {call : Tool.Call} {result : Except Failure String} {runs : Journal} {later : Network}
      (calls : assistant.Calls (assistant.opening dialogue content) network reply call result runs later) :
      runs = [] ∨ ∃ call, assistant.Asks dialogue content network call ∧ runs = [Toolbox.invoking call.name] ∧
        call.name ∈ assistant.toolbox.names :=
    calls.invocation.runs_cases.imp_right fun ran => ⟨_, calls.asks, ran⟩
  cases course with
  | stopped stops => exact .inl stops.runs_eq
  | unsearchable | unknown | answered => exact .inl rfl
  | uncalled calls | untold calls => exact one calls
  | stoppedAgain calls stops =>
    rw [stops.runs_eq]
    exact one calls
  | answeredAgain calls => exact one calls

end

section

variable (assistant : Assistant) {toolbox : Toolbox}

end

end Assistant

end Parley

