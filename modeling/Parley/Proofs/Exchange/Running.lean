import Parley.Proofs.Exchange.Course
import Parley.Proofs.Extraction.Placement
import Parley.Proofs.Scenario

namespace Parley

theorem Exchange.conclude_outcome {exchange : Exchange} {elapsed : Float} {ending : Ending} {result : Result}
    (concluded : exchange.conclude elapsed ending = .ok result) : result.outcome = exchange.outcome := by
  cases ending with
  | broken => cases concluded
  | answered | rejected | uncalled | unheard =>
    obtain rfl := Except.ok.inj concluded
    rfl

namespace Assistant

/-- An exchange runs a function with some texts. -/
def Runs (assistant : Assistant) (dialogue : Dialogue) (content : Content) (network : Network) (tool : Tool)
    (texts : List String) : Prop :=
  ∃ reply later call, assistant.Hears (assistant.opening dialogue content) network reply later ∧
    assistant.Finds reply call ∧ assistant.toolbox.find? call.name = some tool ∧
    tool.spec.accepts call.arguments.length = true ∧ texts = call.arguments

section

variable {assistant : Assistant} {dialogue : Dialogue} {content : Content} {network later : Network}
  {reply : Reply} {call : Tool.Call}

theorem Calls.runs_iff {result : Except Failure String} {runs : Journal}
    (calls : assistant.Calls (assistant.opening dialogue content) network reply call result runs later) :
    runs ≠ [] ↔ ∃ tool, assistant.toolbox.find? call.name = some tool ∧
      tool.spec.accepts call.arguments.length = true := by
  have invocation := calls.invocation
  cases invocation with
  | unknown absent => simp [absent]
  | miscounted found refused => simp [found, refused]
  | failed found accepted | unwritten found accepted | returned found accepted => simp [found, accepted]

/-- An exchange in whose first reply a call is found carries that call out. What it keeps as the outcome is what the
call returned. -/
theorem Course.calls_of_finds {trail : Trail} {ending : Ending} {latest : Network}
    (course : assistant.Course dialogue content network trail ending latest)
    (hears : assistant.Hears (assistant.opening dialogue content) network reply later)
    (finds : assistant.Finds reply call) :
    ∃ result, assistant.Calls (assistant.opening dialogue content) network reply call result trail.runs later ∧
      ∀ outcome, trail.outcome = some outcome →
        result = .ok outcome.result ∧ outcome.arguments = call.arguments := by
  have failing {other : Reply} {next : Network} {called : Tool.Call} {failure : Failure} {runs : Journal}
      (calls : assistant.Calls (assistant.opening dialogue content) network other called (.error failure) runs next) :
      ∃ result, assistant.Calls (assistant.opening dialogue content) network reply call result runs later ∧
        ∀ outcome : Tool.Outcome, none = some outcome →
          result = .ok outcome.result ∧ outcome.arguments = call.arguments := by
    obtain ⟨rfl, rfl⟩ := calls.hears.unique hears
    obtain rfl := calls.finds.unique finds
    exact ⟨_, calls, fun _ kept => nomatch kept⟩
  have returning {other : Reply} {next : Network} {called : Tool.Call} {text : String} {runs : Journal}
      (calls : assistant.Calls (assistant.opening dialogue content) network other called (.ok text) runs next) :
      ∃ result, assistant.Calls (assistant.opening dialogue content) network reply call result runs later ∧
        ∀ outcome : Tool.Outcome, some ⟨called.name, called.arguments, text⟩ = some outcome →
          result = .ok outcome.result ∧ outcome.arguments = call.arguments := by
    obtain ⟨rfl, rfl⟩ := calls.hears.unique hears
    obtain rfl := calls.finds.unique finds
    refine ⟨_, calls, ?_⟩
    intro _ holds
    obtain ⟨rfl⟩ := holds
    exact ⟨rfl, rfl⟩
  obtain ⟨found, search, is⟩ := finds
  cases course with
  | stopped stops => exact absurd hears stops.not_hears
  | unsearchable again failed | unknown again failed =>
    obtain ⟨rfl, _⟩ := again.unique hears
    cases search.symm.trans failed
  | answered again other nothing =>
    obtain ⟨rfl, _⟩ := again.unique hears
    obtain rfl := Except.ok.inj (search.symm.trans other)
    cases is.symm.trans nothing
  | uncalled calls | untold calls => exact failing calls
  | stoppedAgain calls stops =>
    cases stops with
    | unheard | lost | unshown | rejected => exact returning calls
  | answeredAgain calls => exact returning calls

theorem Course.finds_of_runs {trail : Trail} {ending : Ending}
    (course : assistant.Course dialogue content network trail ending later) (ran : trail.runs ≠ []) :
    ∃ reply call later, assistant.Hears (assistant.opening dialogue content) network reply later ∧
      assistant.Finds reply call := by
  cases course with
  | stopped stops =>
    cases stops with
    | unheard | lost | unshown | rejected => exact absurd rfl ran
  | unsearchable | unknown | answered => exact absurd rfl ran
  | uncalled calls | untold calls | stoppedAgain calls | answeredAgain calls =>
    exact ⟨_, _, _, calls.hears, calls.finds⟩

/-- An exchange tells in its journal that a function was run exactly if it runs one. -/
theorem runs_iff (assistant : Assistant) (dialogue : Dialogue) (content : Content) (network : Network) :
    (assistant.send dialogue content network).journal.runs ≠ [] ↔
      ∃ tool texts, assistant.Runs dialogue content network tool texts := by
  obtain ⟨exchange, ending, latest, course, sent⟩ := assistant.send_course dialogue content network
  rw [sent]
  change exchange.trail.runs ≠ [] ↔ _
  constructor
  · intro ran
    obtain ⟨reply, call, later, hears, finds⟩ := course.finds_of_runs ran
    obtain ⟨result, calls, _⟩ := course.calls_of_finds hears finds
    obtain ⟨tool, found, accepted⟩ := calls.runs_iff.1 ran
    exact ⟨tool, call.arguments, reply, later, call, hears, finds, found, accepted, rfl⟩
  · intro holds
    obtain ⟨tool, texts, reply, later, call, hears, finds, found, accepted, rfl⟩ := holds
    obtain ⟨result, calls, _⟩ := course.calls_of_finds hears finds
    exact calls.runs_iff.2 ⟨tool, found, accepted⟩

theorem Runs.outcome {tool : Tool} {texts : List String} {result : Result} {outcome : Tool.Outcome}
    (runs : assistant.Runs dialogue content network tool texts)
    (returned : (assistant.send dialogue content network).result = .ok result)
    (told : result.outcome = some outcome) :
    outcome.arguments = texts ∧ ∃ value, tool.run texts = .ok value ∧ outcome.result = value.plain := by
  obtain ⟨reply, later, call, hears, finds, found, accepted, rfl⟩ := runs
  obtain ⟨exchange, ending, latest, course, sent⟩ := assistant.send_course dialogue content network
  obtain ⟨came, calls, kept⟩ := course.calls_of_finds hears finds
  rw [sent] at returned
  obtain ⟨rfl, same⟩ := kept outcome ((Exchange.conclude_outcome returned).symm.trans told)
  obtain ⟨other, value, again, ran, written⟩ := calls.invocation.ran_of_ok
  obtain rfl := Option.some.inj (found.symm.trans again)
  exact ⟨same, value, ran, written⟩

/-- The function that is run is the one that was offered under the name. -/
theorem spec_of_offered {name : String} {spec : Tool.Spec} {tool : Tool}
    (offers : Extraction.specNamed? (Extraction.offered (assistant.offered false)) name = some spec)
    (found : assistant.toolbox.find? name = some tool) : tool.spec = spec := by
  unfold offered at offers
  split at offers
  next => cases offers
  next =>
    rw [Extraction.offered_of_nodup assistant.toolbox.nodup_names] at offers
    unfold Extraction.specNamed? Toolbox.specs at offers
    rw [List.find?_map] at offers
    obtain ⟨other, same, rfl⟩ := Option.map_eq_some_iff.1 offers
    exact congrArg Tool.spec (Option.some.inj (found.symm.trans same))

end

/-- A function that is called with an object of arguments gets each of them in its place, and nothing in the place of
one that was not given, exactly if the object has only declared keys and leaves no gap. -/
theorem runs_placed_iff {assistant : Assistant} {dialogue : Dialogue} {content : Content} {network later : Network}
    {reply : Reply} {spec : Tool.Spec} {fields : Fields}
    (hears : assistant.Hears (assistant.opening dialogue content) network reply later)
    (gives : Extraction.Gives assistant.limit (assistant.reading reply)
      (Extraction.offered (assistant.offered false)) spec fields) :
    ((assistant.send dialogue content network).journal.runs ≠ [] ↔
      ∃ tool texts, assistant.Runs dialogue content network tool texts) ∧
    ∀ tool texts, assistant.Runs dialogue content network tool texts →
      tool.spec = spec ∧
      (∀ result outcome, (assistant.send dialogue content network).result = .ok result →
        result.outcome = some outcome →
          outcome.arguments = texts ∧ ∃ value, tool.run texts = .ok value ∧ outcome.result = value.plain) ∧
      (Extraction.Placed spec fields texts ↔ Extraction.Gapless spec fields) := by
  refine ⟨assistant.runs_iff dialogue content network, fun tool texts runs => ?_⟩
  have outcomes : ∀ result outcome, (assistant.send dialogue content network).result = .ok result →
      result.outcome = some outcome →
        outcome.arguments = texts ∧ ∃ value, tool.run texts = .ok value ∧ outcome.result = value.plain :=
    fun _ _ => runs.outcome
  obtain ⟨other, next, call, again, finds, found, accepted, rfl⟩ := runs
  obtain ⟨rfl, _⟩ := again.unique hears
  obtain ⟨source, search⟩ := Extraction.search_of_gives gives
  obtain rfl := finds.unique ⟨_, search, rfl⟩
  have same := spec_of_offered gives.offers found
  rw [same] at accepted
  exact ⟨same, outcomes, Extraction.placed_received_iff accepted⟩

def joiner : Assistant := plain .gpt (.only .joined)

def compact : Fields := [("head", "1"), ("body", "2")]

def callingJoined : Network :=
  .answering [Vendor.Chat.calling "joined" (.object compact)]

def called? (assistant : Assistant) (question : Vendor.Question) (network : Network) :
    Option (String × List (String × String)) :=
  (assistant.provider.ask question network).1.toOption.bind fun reply =>
    if reply.isRejection then none else (assistant.reading reply).spelled?

theorem hears_of_called {assistant : Assistant} {question : Vendor.Question} {network : Network} {name : String}
    {texts : List (String × String)} (quiet : assistant.options.verbose = false)
    (called : assistant.called? question network = some (name, texts)) :
    ∃ reply later, assistant.Hears question network reply later ∧
      (assistant.reading reply).calls = [(.text name, .object (texts.map fun field => (field.1, .text field.2)))] := by
  obtain ⟨reply, some, spelled⟩ := Option.bind_eq_some_iff.1 called
  obtain ⟨accepted, spelled⟩ := Option.ite_none_left_eq_some.1 spelled
  have shown : assistant.shows reply = true := by simp [shows, quiet]
  exact ⟨reply, _, ⟨Prod.ext (eq_ok_of_toOption some) rfl, shown, Bool.eq_false_iff.2 accepted⟩,
    Extraction.Reading.calls_of_spelled spelled⟩

theorem joined_placed :
    ∃ reply later, joiner.Hears (joiner.opening {} (.text "Join")) callingJoined reply later ∧
      Extraction.Gives joiner.limit (joiner.reading reply) (Extraction.offered (joiner.offered false))
        Tool.joined.spec compact ∧
      ∃ tool texts, joiner.Runs {} (.text "Join") callingJoined tool texts ∧
        Extraction.Placed Tool.joined.spec compact texts := by
  have called : joiner.called? (joiner.opening {} (.text "Join")) callingJoined =
      some ("joined", [("head", "1"), ("body", "2")]) := by
    decide +kernel
  have ran : (joiner.send {} (.text "Join") callingJoined).journal.runs ≠ [] := by
    decide +kernel
  obtain ⟨reply, later, hears, calls⟩ := hears_of_called rfl called
  have gives : Extraction.Gives joiner.limit (joiner.reading reply) (Extraction.offered (joiner.offered false))
      Tool.joined.spec compact := .structured rfl calls (.inl rfl)
  have places := runs_placed_iff hears gives
  obtain ⟨tool, texts, runs⟩ := places.1.1 ran
  have gapless : Extraction.Gapless Tool.joined.spec compact := ⟨by decide, by decide⟩
  exact ⟨reply, later, hears, gives, tool, texts, runs, (places.2 tool texts runs).2.2.2 gapless⟩

/-- An object that satisfies the schema of its function, but leaves out an argument before one that it gives. -/
def gapped : Fields := [("head", "1"), ("tail", "3")]

def writingGapped : Network :=
  .answering [Vendor.Chat.saying
    [("content", (Json.object [("name", "joined"), ("arguments", .object gapped)]).render)]]

/-- The value of the last argument is run in the place of the one that was left out. -/
theorem gapped_not_placed :
    (∀ name ∈ Tool.joined.spec.required, (gapped.lookup name).isSome = true) ∧
    (∀ field ∈ gapped, field.1 ∈ Tool.joined.spec.arguments) ∧
    (joiner.send {} (.text "Join") writingGapped).result.toOption.bind Result.outcome =
      some ⟨"joined", ["1", "3"], "1|3"⟩ ∧
    ¬Extraction.Placed Tool.joined.spec gapped ["1", "3"] := by
  refine ⟨by decide, by decide, by decide +kernel, fun placed => ?_⟩
  have body := placed 1 "body" rfl
  cases body

end Assistant

end Parley

