import Parley.Proofs.Exchange.Course

/-!
What a text sent leaves behind in the dialogue. Each way of ending either leaves the dialogue as it was or adds the
whole exchange with every call to the vendor; so a history consists of whole exchanges, and it only grows between
resets.
-/

namespace Parley

namespace Tally

def recordAll (tally : Tally) (charges : List (Usage × Option String)) : Tally :=
  charges.foldl (fun tally charge => tally.record charge.1 charge.2) tally

theorem calls_recordAll (tally : Tally) (charges : List (Usage × Option String)) :
    (tally.recordAll charges).calls = tally.calls ++ charges.map Prod.fst := by
  induction charges generalizing tally with
  | nil => exact (List.append_nil _).symm
  | cons charge rest ih =>
    change ((tally.record charge.1 charge.2).recordAll rest).calls = _
    rw [ih]
    simp [record]

end Tally

namespace Exchange

theorem commit_eq (exchange : Exchange) (dialogue : Dialogue) (answer : Option String) :
    exchange.commit dialogue answer =
      ⟨dialogue.turns ++ (exchange.pending ++ answer.toList.map fun text => Turn.assistant (.text text)),
        dialogue.tally.recordAll exchange.charges⟩ := by
  have recorded : ∀ (charges : List (Usage × Option String)) (before : Dialogue),
      charges.foldl (fun dialogue charge => dialogue.recordUsage charge.1 charge.2) before =
        ⟨before.turns, before.tally.recordAll charges⟩ := by
    intro charges
    induction charges with
    | nil => exact fun _ => rfl
    | cons charge rest ih => exact fun before => ih (before.recordUsage charge.1 charge.2)
  exact recorded exchange.charges _

end Exchange

def Result.reported (result : Result) : List Turn := (result.outcome.map Turn.function).toList

namespace Report

end Report

namespace Trail

structure Reports (trail : Trail) (content : Content) : Prop where
  pending : trail.pending = .user content :: (trail.outcome.map Turn.function).toList
  ran : trail.outcome.isSome = true ↔ trail.runs ≠ []

/-- What has been done by the time an exchange ends, by its ending. -/
def Settles (trail : Trail) (content : Content) : Ending → Prop
  | .answered .. => trail.Reports content
  | .rejected failure _ => trail.Reports content ∧ ∃ provider reason text, failure = .rejected provider reason text
  | .uncalled failure =>
      trail.pending = [.user content] ∧ trail.outcome = none ∧
        ((∃ name available, failure = .unknownFunction name available) ∨
          (∃ name expected got minimum, failure = .arity name expected got minimum) ∨
          ∃ name cause arguments, failure = .execution name cause arguments)
  | .unheard failure => (trail.outcome.isSome = true → trail.runs ≠ []) ∧ failure.isDelivery = true
  | .broken _ => True

theorem reports_opened (content : Content) : (opened content).Reports content where
  pending := rfl
  ran := by simp [opened]

theorem reports_reopened (content : Content) (usage : Usage) (call : Tool.Call) (result : String) {runs : Journal}
    (ran : runs ≠ []) : (reopened content usage call result runs).Reports content where
  pending := rfl
  ran := by simp [reopened, ran]

end Trail

namespace Assistant

theorem Stops.settles {assistant : Assistant} {question : Vendor.Question} {network later : Network}
    {before trail : Trail} {ending : Ending} {content : Content}
    (stops : assistant.Stops question network before trail ending later) (reports : before.Reports content) :
    trail.Settles content ending := by
  cases stops with
  | unheard answer delivery => exact ⟨reports.ran.1, delivery⟩
  | lost | unshown => trivial
  | rejected => exact ⟨⟨reports.pending, reports.ran⟩, _, _, _, rfl⟩

theorem Calls.reports {assistant : Assistant} {question : Vendor.Question} {network later : Network} {reply : Reply}
    {call : Tool.Call} {result : String} {runs : Journal}
    (calls : assistant.Calls question network reply call (.ok result) runs later) (content : Content) :
    (Trail.reopened content reply.usage call result runs).Reports content := by
  have ran := calls.invocation.runs_of_ok
  exact Trail.reports_reopened content reply.usage call result (ran ▸ List.cons_ne_nil _ _)

/-- However an exchange goes, its pending turns and its failure fit its ending. -/
theorem Course.settles {assistant : Assistant} {dialogue : Dialogue} {content : Content} {network later : Network}
    {trail : Trail} {ending : Ending} (course : assistant.Course dialogue content network trail ending later) :
    trail.Settles content ending := by
  cases course with
  | stopped stops => exact stops.settles (Trail.reports_opened content)
  | unsearchable | untold => trivial
  | unknown => exact ⟨rfl, rfl, .inl ⟨_, _, rfl⟩⟩
  | answered => exact ⟨rfl, (Trail.reports_opened content).ran⟩
  | uncalled calls own =>
    refine ⟨rfl, rfl, ?_⟩
    obtain ⟨available, same⟩ | ⟨expected, got, minimum, same⟩ | ⟨cause, same⟩ := calls.invocation.own_cases own
    · exact .inl ⟨_, available, same⟩
    · exact .inr (.inl ⟨_, expected, got, minimum, same⟩)
    · exact .inr (.inr ⟨_, cause, _, same⟩)
  | stoppedAgain calls stops => exact stops.settles (calls.reports content)
  | answeredAgain calls again =>
    have reports := calls.reports content
    exact ⟨reports.pending, reports.ran⟩

end Assistant

namespace Report

end Report

structure Sending where
  assistant : Assistant
  content : Content
  network : Network

inductive Event where
  | sent (sending : Sending)
  | reset

namespace Dialogue

def after (dialogue : Dialogue) : Event → Dialogue
  | .sent sending => (sending.assistant.send dialogue sending.content sending.network).dialogue
  | .reset => dialogue.reset

def afterAll (dialogue : Dialogue) (events : List Event) : Dialogue := events.foldl after dialogue

end Dialogue

namespace Report

end Report

namespace Dialogue

end Dialogue

end Parley

