import Parley.Assistant
import Parley.Proofs.Failing
import Parley.Proofs.Invocation

/-!
The courses of an exchange. An exchange asks the vendor, may carry out one call, and may ask once more; the relation
`Course` lists every way in which that can go, with what the exchange has done by then and how it ends. The main
result says that each text sent takes one of these courses.
-/

namespace Parley

/-- What an exchange has done so far. Runs are the records of functions that were run. -/
structure Trail where
  pending : List Turn
  charges : List (Usage × Option String) := []
  trace : List Stage
  call : Option Tool.Call := none
  outcome : Option Tool.Outcome := none
  runs : Journal := []

namespace Trail

def reach (trail : Trail) (stage : Stage) : Trail := { trail with trace := trail.trace ++ [stage] }

def charge (trail : Trail) (usage : Usage) (function : Option String) : Trail :=
  { trail with charges := trail.charges ++ [(usage, function)] }

def opened (content : Content) : Trail := { pending := [.user content], trace := [.awaitingInput, .requestSent] }

def called (content : Content) (usage : Usage) (call : Tool.Call) (runs : Journal) : Trail where
  pending := [.user content]
  charges := [(usage, some call.name)]
  trace := [.awaitingInput, .requestSent, .callDetected]
  call := some call
  runs := runs

def reopened (content : Content) (usage : Usage) (call : Tool.Call) (result : String) (runs : Journal) : Trail where
  pending := [.user content, .function ⟨call.name, call.arguments, result⟩]
  charges := [(usage, some call.name)]
  trace := [.awaitingInput, .requestSent, .callDetected, .requestSent]
  call := some call
  outcome := some ⟨call.name, call.arguments, result⟩
  runs := runs

end Trail

def Journal.runs (journal : Journal) : Journal := journal.filter fun record => record.reporter = .toolbox

namespace Exchange

def trail (exchange : Exchange) : Trail where
  pending := exchange.pending
  charges := exchange.charges
  trace := exchange.trace
  call := exchange.call
  outcome := exchange.outcome
  runs := exchange.journal.runs

@[simp] theorem trail_reach (exchange : Exchange) (stage : Stage) :
    (exchange.reach stage).trail = exchange.trail.reach stage := rfl

@[simp] theorem trail_charge (exchange : Exchange) (usage : Usage) (function : Option String) :
    (exchange.charge usage function).trail = exchange.trail.charge usage function := rfl

@[simp] theorem trail_note (exchange : Exchange) (reply : Reply) : (exchange.note reply).trail = exchange.trail := rfl

@[simp] theorem trail_tell (exchange : Exchange) (verbose : Bool) (line : String) :
    (exchange.tell verbose line).trail = exchange.trail := by
  unfold tell
  split <;> rfl

theorem trail_log (exchange : Exchange) (records : Journal) :
    (exchange.log records).trail = { exchange.trail with runs := exchange.trail.runs ++ records.runs } := by
  simp [log, trail, Journal.runs]

theorem trail_log_other (exchange : Exchange) {records : Journal} (others : records.runs = []) :
    (exchange.log records).trail = exchange.trail := by
  rw [trail_log, others, List.append_nil]

@[simp] theorem trail_warn (exchange : Exchange) (text : String) : (exchange.warn text).trail = exchange.trail :=
  trail_log_other exchange rfl

theorem trail_begin (content : Content) : ((begin content).reach .requestSent).trail = .opened content := rfl

end Exchange

namespace Vendor.Question

/-- The question that follows a call: one turn more, and no functions. -/
def following (question : Question) (outcome : Tool.Outcome) : Question :=
  { question with turns := question.turns ++ [.function outcome], functions := [] }

end Vendor.Question

namespace Assistant

def opening (assistant : Assistant) (dialogue : Dialogue) (content : Content) : Vendor.Question where
  turns := dialogue.turns ++ [.user content]
  systemPrompt := assistant.options.systemPrompt.getD ""
  functions := assistant.offered false
  model := assistant.options.model

def shows (assistant : Assistant) (reply : Reply) : Bool :=
  !assistant.options.verbose || [reply.usage.total, reply.usage.prompt, reply.usage.completion].all Text.isWritable

def finding (assistant : Assistant) (reply : Reply) : Except Failure Extraction.Finding :=
  (Extraction.search assistant.limit (assistant.reading reply) (assistant.offered false)).1

def Finds (assistant : Assistant) (reply : Reply) (call : Tool.Call) : Prop :=
  ∃ found, assistant.finding reply = .ok found ∧ found.call = some call

structure Hears (assistant : Assistant) (question : Vendor.Question) (network : Network) (reply : Reply)
    (later : Network) : Prop where
  answered : assistant.provider.ask question network = (.ok reply, later)
  shown : assistant.shows reply = true
  accepted : reply.isRejection = false

structure Calls (assistant : Assistant) (question : Vendor.Question) (network : Network) (reply : Reply)
    (call : Tool.Call) (result : Except Failure String) (runs : Journal) (later : Network) : Prop where
  hears : assistant.Hears question network reply later
  finds : assistant.Finds reply call
  invoked : assistant.toolbox.invoke call.name call.arguments = (result, runs)

/-- The ways in which a question ends the exchange. -/
inductive Stops (assistant : Assistant) (question : Vendor.Question) (network : Network) (before : Trail) :
    Trail → Ending → Network → Prop where
  | unheard {failure : Failure} {later : Network}
      (answer : assistant.provider.ask question network = (.error failure, later))
      (delivery : failure.isDelivery = true) :
      Stops assistant question network before (before.reach .providerFailed) (.unheard failure) later
  | lost {failure : Failure} {later : Network}
      (answer : assistant.provider.ask question network = (.error failure, later))
      (other : failure.isDelivery = false) :
      Stops assistant question network before before (.broken failure) later
  | unshown {reply : Reply} {later : Network}
      (answer : assistant.provider.ask question network = (.ok reply, later))
      (hidden : assistant.shows reply = false) :
      Stops assistant question network before before (.broken (Failure.tooManyDigits none)) later
  | rejected {reply : Reply} {later : Network}
      (answer : assistant.provider.ask question network = (.ok reply, later))
      (shown : assistant.shows reply = true) (rejected : reply.isRejection = true) :
      Stops assistant question network before ((before.charge reply.usage none).reach .providerFailed)
        (.rejected (assistant.rejection reply) reply.finish) later

/-- The text of an answer: the reply's own, or what the function returned where the reply has none. -/
def spoken (result : String) (reply : Reply) : String := if reply.text.isEmpty then result else reply.text

/-- The ways in which an exchange can go. -/
inductive Course (assistant : Assistant) (dialogue : Dialogue) (content : Content) (network : Network) :
    Trail → Ending → Network → Prop where
  | stopped {trail : Trail} {ending : Ending} {later : Network}
      (stops : assistant.Stops (assistant.opening dialogue content) network (.opened content) trail ending later) :
      Course assistant dialogue content network trail ending later
  | unsearchable {reply : Reply} {later : Network} {failure : Failure}
      (hears : assistant.Hears (assistant.opening dialogue content) network reply later)
      (search : assistant.finding reply = .error failure)
      (other : ∀ name available, failure ≠ .unknownFunction name available) :
      Course assistant dialogue content network (.opened content) (.broken failure) later
  | unknown {reply : Reply} {later : Network} {name : Json} {available : List String}
      (hears : assistant.Hears (assistant.opening dialogue content) network reply later)
      (search : assistant.finding reply = .error (.unknownFunction name available)) :
      Course assistant dialogue content network (((Trail.opened content).charge reply.usage none).reach .callDetected)
        (.uncalled (.unknownFunction name available)) later
  | answered {reply : Reply} {later : Network} {found : Extraction.Finding}
      (hears : assistant.Hears (assistant.opening dialogue content) network reply later)
      (search : assistant.finding reply = .ok found) (nothing : found.call = none) :
      Course assistant dialogue content network (((Trail.opened content).charge reply.usage none).reach .answerReady)
        (.answered reply.text reply.finish) later
  | uncalled {reply : Reply} {later : Network} {call : Tool.Call} {failure : Failure} {runs : Journal}
      (calls : assistant.Calls (assistant.opening dialogue content) network reply call (.error failure) runs later)
      (own : failure.isOwn = true) :
      Course assistant dialogue content network (.called content reply.usage call runs) (.uncalled failure) later
  | untold {reply : Reply} {later : Network} {call : Tool.Call} {failure : Failure} {runs : Journal}
      (calls : assistant.Calls (assistant.opening dialogue content) network reply call (.error failure) runs later)
      (other : failure.isOwn = false) :
      Course assistant dialogue content network (.called content reply.usage call runs) (.broken failure) later
  | stoppedAgain {reply : Reply} {later latest : Network} {call : Tool.Call} {result : String} {runs : Journal}
      {trail : Trail} {ending : Ending}
      (calls : assistant.Calls (assistant.opening dialogue content) network reply call (.ok result) runs later)
      (stops : assistant.Stops ((assistant.opening dialogue content).following ⟨call.name, call.arguments, result⟩) later
        (.reopened content reply.usage call result runs) trail ending latest) :
      Course assistant dialogue content network trail ending latest
  | answeredAgain {reply last : Reply} {later latest : Network} {call : Tool.Call} {result : String} {runs : Journal}
      (calls : assistant.Calls (assistant.opening dialogue content) network reply call (.ok result) runs later)
      (again : assistant.Hears ((assistant.opening dialogue content).following ⟨call.name, call.arguments, result⟩) later
        last latest) :
      Course assistant dialogue content network
        (((Trail.reopened content reply.usage call result runs).charge last.usage none).reach .answerReady)
        (.answered (spoken result last) last.finish) latest

theorem unanswered_delivery (assistant : Assistant) (exchange : Exchange) {failure : Failure}
    (delivery : failure.isDelivery = true) :
    ∃ told, assistant.unanswered exchange failure = (told, .unheard failure) ∧
      told.trail = exchange.trail.reach .providerFailed := by
  cases failure with
  | transport text status provider => exact ⟨_, rfl, by simp⟩
  | malformed provider text => exact ⟨_, rfl, by simp⟩
  | _ => cases delivery

theorem unanswered_other (assistant : Assistant) (exchange : Exchange) {failure : Failure}
    (other : failure.isDelivery = false) : assistant.unanswered exchange failure = (exchange, .broken failure) := by
  cases failure with
  | transport text status provider => cases other
  | malformed provider text => cases other
  | _ => rfl

theorem receive_of_shows (assistant : Assistant) (exchange : Exchange) {reply : Reply}
    (shown : assistant.shows reply = true) :
    ∃ received, assistant.receive exchange reply = .ok received ∧ received.trail = exchange.trail := by
  unfold receive
  split
  next verbose =>
    have writable : [reply.usage.total, reply.usage.prompt, reply.usage.completion].all Text.isWritable = true := by
      simpa [shows, verbose] using shown
    exact ⟨_, by rw [tokensLine, Failure.writing, if_pos writable]; rfl, by simp⟩
  next => exact ⟨_, rfl, by simp⟩

theorem receive_of_not_shows (assistant : Assistant) (exchange : Exchange) {reply : Reply}
    (hidden : assistant.shows reply = false) :
    assistant.receive exchange reply = .error (Failure.tooManyDigits none) := by
  simp only [shows, Bool.or_eq_false_iff, Bool.not_eq_false'] at hidden
  obtain ⟨verbose, unwritable⟩ := hidden
  simp only [receive, verbose, if_true, tokensLine, Failure.writing, unwritable, Bool.false_eq_true, if_false]
  rfl

def hearing (assistant : Assistant) : Except Failure Reply → Except Ending Reply
  | .error failure => .error (if failure.isDelivery then .unheard failure else .broken failure)
  | .ok reply =>
      if assistant.shows reply then
        if reply.isRejection then .error (.rejected (assistant.rejection reply) reply.finish) else .ok reply
      else .error (.broken (Failure.tooManyDigits none))

section

variable {assistant : Assistant} {question : Vendor.Question} {network later : Network} {reply : Reply}

theorem Stops.hearing {before trail : Trail} {ending : Ending}
    (stops : assistant.Stops question network before trail ending later) :
    assistant.hearing (assistant.provider.ask question network).1 = .error ending := by
  cases stops with
  | unheard answer delivery => simp only [answer, Assistant.hearing, delivery, if_true]
  | lost answer other => simp only [answer, Assistant.hearing, other, Bool.false_eq_true, if_false]
  | unshown answer hidden => simp only [answer, Assistant.hearing, hidden, Bool.false_eq_true, if_false]
  | rejected answer shown rejected => simp only [answer, Assistant.hearing, shown, rejected, if_true]

theorem Hears.hearing (hears : assistant.Hears question network reply later) :
    assistant.hearing (assistant.provider.ask question network).1 = .ok reply := by
  simp only [hears.answered, Assistant.hearing, hears.shown, hears.accepted, if_true, Bool.false_eq_true, if_false]

theorem Hears.unique {other : Reply} {latest : Network} (hears : assistant.Hears question network reply later)
    (again : assistant.Hears question network other latest) : reply = other ∧ later = latest := by
  obtain ⟨same, there⟩ := Prod.mk.inj (hears.answered.symm.trans again.answered)
  exact ⟨Except.ok.inj same, there⟩

theorem Finds.unique {call other : Tool.Call} (finds : assistant.Finds reply call) (again : assistant.Finds reply other) :
    call = other := by
  obtain ⟨found, search, is⟩ := finds
  obtain ⟨second, same, isToo⟩ := again
  obtain rfl : found = second := Except.ok.inj (search.symm.trans same)
  exact Option.some.inj (is.symm.trans isToo)

theorem Stops.not_hears {before trail : Trail} {ending : Ending} {latest : Network}
    (stops : assistant.Stops question network before trail ending latest) :
    ¬assistant.Hears question network reply later :=
  fun hears => nomatch stops.hearing.symm.trans hears.hearing

end

/-- What came of a question either ends the exchange or is a reply to go on with. -/
theorem hear_cases (assistant : Assistant) (exchange : Exchange) {question : Vendor.Question}
    {network later : Network} {answer : Except Failure Reply}
    (asked : assistant.provider.ask question network = (answer, later)) :
    (∃ stopped ending, assistant.Stops question network exchange.trail stopped.trail ending later ∧
      assistant.hear exchange answer = (stopped, .error ending)) ∨
    (∃ received reply, assistant.Hears question network reply later ∧ received.trail = exchange.trail ∧
      assistant.hear exchange answer = (received, .ok reply)) := by
  cases answer with
  | error failure =>
    cases delivery : failure.isDelivery with
    | true =>
      obtain ⟨told, same, trail⟩ := assistant.unanswered_delivery exchange delivery
      refine .inl ⟨told, .unheard failure, ?_, by simp only [hear, same]⟩
      rw [trail]
      exact .unheard asked delivery
    | false =>
      exact .inl ⟨exchange, _, .lost asked delivery, by simp only [hear, assistant.unanswered_other exchange delivery]⟩
  | ok reply =>
    cases shown : assistant.shows reply with
    | false =>
      have failed := assistant.receive_of_not_shows exchange shown
      exact .inl ⟨exchange, _, .unshown asked shown, by simp only [hear, failed]⟩
    | true =>
      obtain ⟨received, same, trail⟩ := assistant.receive_of_shows exchange shown
      cases rejected : reply.isRejection with
      | true =>
        refine .inl ⟨_, .rejected (assistant.rejection reply) reply.finish, ?_,
          by simp only [hear, same, rejected, if_true, reject]; rfl⟩
        simp only [Exchange.trail_reach, Exchange.trail_warn, Exchange.trail_charge, trail]
        exact .rejected asked shown rejected
      | false =>
        exact .inr ⟨received, reply, ⟨asked, shown, rejected⟩, trail, by simp [hear, same, rejected]⟩

theorem question_reopened (assistant : Assistant) (dialogue : Dialogue) {content : Content} {exchange : Exchange}
    {usage : Usage} {call : Tool.Call} {result : String} {runs : Journal}
    (reopened : exchange.trail = .reopened content usage call result runs) :
    assistant.question dialogue exchange true =
      (assistant.opening dialogue content).following ⟨call.name, call.arguments, result⟩ := by
  have pending : exchange.pending = [.user content, .function ⟨call.name, call.arguments, result⟩] :=
    congrArg Trail.pending reopened
  simp [question, pending, opening, Vendor.Question.following, offered]

theorem answer_of_outcome {exchange : Exchange} (reply : Reply) {outcome : Tool.Outcome}
    (had : exchange.outcome = some outcome) :
    answer exchange reply = (exchange.reach .answerReady, .answered (spoken outcome.result reply) reply.finish) := by
  simp only [answer, had, spoken, Option.map_some, Option.getD_some]

theorem runs_search (limit : Int) (reading : Extraction.Reading) (specs : List Tool.Spec) :
    (Extraction.search limit reading specs).2.runs = [] := by
  have silent : ∀ {journal : Journal}, (∀ record ∈ journal, record.reporter = .extraction) → journal.runs = [] := by
    intro journal others
    refine List.filter_eq_nil_iff.2 fun record member => ?_
    simp [others record member]
  apply silent
  unfold Extraction.search
  split
  next name arguments others _ =>
    dsimp only
    split
    · simp
    · unfold Extraction.extraCalls
      split <;> simp
  next =>
    dsimp only
    split
    · simp
    · intro record member
      obtain ⟨ambiguity, _, rfl⟩ := List.mem_map.1 member
      rfl

theorem runs_invoke (toolbox : Toolbox) (name : String) (arguments : List String) :
    (toolbox.invoke name arguments).2.runs = (toolbox.invoke name arguments).2 := by
  obtain none | ⟨one, _⟩ := (toolbox.invocation name arguments).runs_cases
  · rw [none]
    rfl
  · rw [one]
    rfl

theorem Calls.invocation {assistant : Assistant} {question : Vendor.Question} {network later : Network}
    {reply : Reply} {call : Tool.Call} {result : Except Failure String} {runs : Journal}
    (calls : assistant.Calls question network reply call result runs later) :
    assistant.toolbox.Invocation call.name call.arguments result runs := by
  simpa only [calls.invoked] using assistant.toolbox.invocation call.name call.arguments

theorem carryOut_error (assistant : Assistant) (exchange : Exchange) {call : Tool.Call} {failure : Failure}
    {runs : Journal} (invoked : assistant.toolbox.invoke call.name call.arguments = (.error failure, runs)) :
    ∃ told, assistant.carryOut exchange call =
        (told, some (if failure.isOwn then .uncalled failure else .broken failure)) ∧
      told.trail = { exchange.trail with runs := exchange.trail.runs ++ runs } := by
  have recorded : runs.runs = runs := by simpa only [invoked] using runs_invoke assistant.toolbox call.name call.arguments
  have logged : (exchange.log runs).trail = { exchange.trail with runs := exchange.trail.runs ++ runs } := by
    rw [Exchange.trail_log, recorded]
  cases failure with
  | foreign kind text => exact ⟨exchange.log runs, by simp only [carryOut, invoked]; rfl, logged⟩
  | _ =>
    refine ⟨_, by simp only [carryOut, invoked]; rfl, ?_⟩
    exact (Exchange.trail_warn _ _).trans logged

theorem carryOut_ok (assistant : Assistant) (exchange : Exchange) {call : Tool.Call} {result : String}
    {runs : Journal} (invoked : assistant.toolbox.invoke call.name call.arguments = (.ok result, runs)) :
    ∃ called, assistant.carryOut exchange call = (called, none) ∧
      called.trail = { exchange.trail with
        pending := exchange.pending ++ [.function ⟨call.name, call.arguments, result⟩]
        outcome := some ⟨call.name, call.arguments, result⟩
        runs := exchange.trail.runs ++ runs } := by
  have recorded : runs.runs = runs := by simpa only [invoked] using runs_invoke assistant.toolbox call.name call.arguments
  refine ⟨_, by simp only [carryOut, invoked]; rfl, ?_⟩
  change { (exchange.log runs).trail with
    pending := exchange.pending ++ [Turn.function ⟨call.name, call.arguments, result⟩]
    outcome := some ⟨call.name, call.arguments, result⟩ } = _
  rw [Exchange.trail_log, recorded]

theorem pursue_unknown (assistant : Assistant) (exchange : Exchange) (reply : Reply) (name : Json)
    (available : List String) :
    ∃ pursued, assistant.pursue exchange reply (.error (.unknownFunction name available)) =
        (pursued, some (.uncalled (.unknownFunction name available))) ∧
      pursued.trail = (exchange.trail.charge reply.usage none).reach .callDetected :=
  ⟨_, rfl, Exchange.trail_warn _ _⟩

theorem pursue_error (assistant : Assistant) (exchange : Exchange) (reply : Reply) {failure : Failure}
    (other : ∀ name available, failure ≠ .unknownFunction name available) :
    assistant.pursue exchange reply (.error failure) = (exchange, some (.broken failure)) := by
  cases failure with
  | unknownFunction name available => exact absurd rfl (other name available)
  | _ => rfl

theorem pursue_nothing (assistant : Assistant) {exchange : Exchange} (reply : Reply) {found : Extraction.Finding}
    (fresh : exchange.outcome = none) (nothing : found.call = none) :
    ∃ pursued, assistant.pursue exchange reply (.ok found) = (pursued, some (.answered reply.text reply.finish)) ∧
      pursued.trail = (exchange.trail.charge reply.usage none).reach .answerReady := by
  have text : (if reply.text.isEmpty then "" else reply.text) = reply.text := by
    split
    next empty => exact (String.isEmpty_iff.1 empty).symm
    next => rfl
  refine ⟨({ exchange with ambiguity := found.ambiguity }.charge reply.usage none).reach .answerReady, ?_, rfl⟩
  simp only [pursue, nothing, answer, Exchange.charge, fresh, Option.map_none, Option.getD_none, text]

theorem pursue_call (assistant : Assistant) (exchange : Exchange) (reply : Reply) {found : Extraction.Finding}
    {call : Tool.Call} (calls : found.call = some call) :
    ∃ detected, assistant.pursue exchange reply (.ok found) = assistant.carryOut detected call ∧
      detected.trail = { (exchange.trail.charge reply.usage (some call.name)).reach .callDetected with
        call := some call } := by
  refine ⟨_, by simp only [pursue, calls]; rfl, ?_⟩
  rw [Exchange.trail_tell]
  rfl

theorem carryOut_cases (assistant : Assistant) {dialogue : Dialogue} {content : Content} {network later : Network}
    {detected : Exchange} {reply : Reply} {call : Tool.Call}
    (trail : detected.trail = .called content reply.usage call [])
    (hears : assistant.Hears (assistant.opening dialogue content) network reply later)
    (finds : assistant.Finds reply call) :
    (∃ pursued ending, assistant.Course dialogue content network pursued.trail ending later ∧
      assistant.carryOut detected call = (pursued, some ending)) ∨
    (∃ pursued result runs,
      assistant.Calls (assistant.opening dialogue content) network reply call (.ok result) runs later ∧
      (pursued.reach .requestSent).trail = .reopened content reply.usage call result runs ∧
      assistant.carryOut detected call = (pursued, none)) := by
  cases invoked : assistant.toolbox.invoke call.name call.arguments with
  | mk result runs =>
    cases result with
    | error failure =>
      obtain ⟨told, ends, after⟩ := assistant.carryOut_error detected invoked
      replace after : told.trail = .called content reply.usage call runs := by rw [after, trail]; rfl
      refine .inl ⟨told, _, ?_, ends⟩
      rw [after]
      cases own : failure.isOwn with
      | true => exact .uncalled ⟨hears, finds, invoked⟩ own
      | false => exact .untold ⟨hears, finds, invoked⟩ own
    | ok result =>
      obtain ⟨called, goesOn, after⟩ := assistant.carryOut_ok detected invoked
      have pending : detected.pending = [.user content] := congrArg Trail.pending trail
      refine .inr ⟨called, result, runs, ⟨hears, finds, invoked⟩, ?_, goesOn⟩
      rw [Exchange.trail_reach, after, trail, pending]
      rfl

/-- A reply that does not end the exchange is the answer, calls a function in vain, or leads to another question. -/
theorem pursue_cases (assistant : Assistant) {dialogue : Dialogue} {content : Content} {network later : Network}
    {exchange : Exchange} {reply : Reply} (opened : exchange.trail = .opened content)
    (hears : assistant.Hears (assistant.opening dialogue content) network reply later) :
    (∃ pursued ending, assistant.Course dialogue content network pursued.trail ending later ∧
      assistant.pursue exchange reply (assistant.finding reply) = (pursued, some ending)) ∨
    (∃ pursued call result runs,
      assistant.Calls (assistant.opening dialogue content) network reply call (.ok result) runs later ∧
      (pursued.reach .requestSent).trail = .reopened content reply.usage call result runs ∧
      assistant.pursue exchange reply (assistant.finding reply) = (pursued, none)) := by
  cases search : assistant.finding reply with
  | error failure =>
    by_cases unknown : ∃ name available, failure = .unknownFunction name available
    · obtain ⟨name, available, rfl⟩ := unknown
      obtain ⟨pursued, same, trail⟩ := assistant.pursue_unknown exchange reply name available
      rw [opened] at trail
      exact .inl ⟨pursued, _, trail ▸ .unknown hears search, same⟩
    · simp only [not_exists] at unknown
      refine .inl ⟨exchange, .broken failure, ?_, assistant.pursue_error exchange reply unknown⟩
      rw [opened]
      exact .unsearchable hears search unknown
  | ok found =>
    cases calls : found.call with
    | none =>
      have fresh : exchange.outcome = none := congrArg Trail.outcome opened
      obtain ⟨pursued, same, trail⟩ := assistant.pursue_nothing reply fresh calls
      rw [opened] at trail
      exact .inl ⟨pursued, _, trail ▸ .answered hears search calls, same⟩
    | some call =>
      obtain ⟨detected, same, trail⟩ := assistant.pursue_call exchange reply calls
      rw [opened] at trail
      rw [same]
      obtain ends | ⟨pursued, goesOn⟩ := assistant.carryOut_cases trail hears ⟨found, search, calls⟩
      · exact .inl ends
      · exact .inr ⟨pursued, call, goesOn⟩

theorem first_cases (assistant : Assistant) {dialogue : Dialogue} {content : Content} {network later : Network}
    {exchange : Exchange} {answer : Except Failure Reply} (opened : exchange.trail = .opened content)
    (asked : assistant.provider.ask (assistant.opening dialogue content) network = (answer, later)) :
    (∃ pursued ending, assistant.Course dialogue content network pursued.trail ending later ∧
      assistant.first exchange answer = (pursued, some ending)) ∨
    (∃ pursued reply call result runs,
      assistant.Calls (assistant.opening dialogue content) network reply call (.ok result) runs later ∧
      (pursued.reach .requestSent).trail = .reopened content reply.usage call result runs ∧
      assistant.first exchange answer = (pursued, none)) := by
  obtain ⟨stopped, ending, stops, heard⟩ | ⟨received, reply, hears, trail, heard⟩ := assistant.hear_cases exchange asked
  · rw [opened] at stops
    exact .inl ⟨stopped, ending, .stopped stops, by simp only [first, heard]⟩
  · have logged : (received.log (Extraction.search assistant.limit (assistant.reading reply)
        (assistant.offered false)).2).trail = .opened content := by
      rw [Exchange.trail_log_other _ (runs_search _ _ _), trail, opened]
    have considered : assistant.first exchange answer = assistant.pursue (received.log (Extraction.search
        assistant.limit (assistant.reading reply) (assistant.offered false)).2) reply (assistant.finding reply) := by
      simp only [first, heard]
      rfl
    rw [considered]
    obtain ⟨pursued, ending, course, ends⟩ | ⟨pursued, call, result, runs, calls, reopened, goesOn⟩ :=
      assistant.pursue_cases logged hears
    · exact .inl ⟨pursued, ending, course, ends⟩
    · exact .inr ⟨pursued, reply, call, result, runs, calls, reopened, goesOn⟩

theorem second_cases (assistant : Assistant) {dialogue : Dialogue} {content : Content}
    {network later latest : Network} {exchange : Exchange} {reply : Reply} {call : Tool.Call} {result : String}
    {runs : Journal} {answer : Except Failure Reply}
    (reopened : exchange.trail = .reopened content reply.usage call result runs)
    (calls : assistant.Calls (assistant.opening dialogue content) network reply call (.ok result) runs later)
    (asked : assistant.provider.ask
      ((assistant.opening dialogue content).following ⟨call.name, call.arguments, result⟩) later = (answer, latest)) :
    assistant.Course dialogue content network (assistant.second exchange answer).1.trail
      (assistant.second exchange answer).2 latest := by
  obtain ⟨stopped, ending, stops, heard⟩ | ⟨received, last, again, trail, heard⟩ := assistant.hear_cases exchange asked
  · rw [reopened] at stops
    simp only [second, heard]
    exact .stoppedAgain calls stops
  · have outcome : (received.charge last.usage none).outcome = some ⟨call.name, call.arguments, result⟩ :=
      congrArg Trail.outcome (trail.trans reopened)
    simp only [second, heard, answer_of_outcome last outcome, Exchange.trail_reach, Exchange.trail_charge, trail,
      reopened]
    exact .answeredAgain calls again

/-- Each text sent takes one of the courses of an exchange. -/
theorem send_course (assistant : Assistant) (dialogue : Dialogue) (content : Content) (network : Network) :
    ∃ exchange ending later, assistant.Course dialogue content network exchange.trail ending later ∧
      assistant.send dialogue content network = report dialogue network.clock exchange ending later := by
  cases asked : assistant.provider.ask (assistant.opening dialogue content) network with
  | mk answer later =>
    have sent : assistant.provider.ask (assistant.question dialogue ((Exchange.begin content).reach .requestSent) false)
      network = (answer, later) := asked
    obtain ⟨pursued, ending, course, ends⟩ | ⟨pursued, reply, call, result, runs, calls, reopened, goesOn⟩ :=
      assistant.first_cases (Exchange.trail_begin content) asked
    · exact ⟨pursued, ending, later, course, by simp only [send, sent, ends]⟩
    · have asks := assistant.question_reopened dialogue reopened
      cases again : assistant.provider.ask
          ((assistant.opening dialogue content).following ⟨call.name, call.arguments, result⟩) later with
      | mk answer latest =>
        refine ⟨_, _, latest, assistant.second_cases reopened calls again, ?_⟩
        simp only [send, sent, goesOn, asks, again]

end Assistant

end Parley

