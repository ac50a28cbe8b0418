import Parley.Proofs.Exchange.Executable
import Parley.Proofs.Exchange.Rejection
import Parley.Proofs.Tokens

namespace Parley

namespace Tally

variable (tally : Tally) (charges : List (Usage × Option String))

theorem tokens_recordAll :
    (tally.recordAll charges).tokens = tally.tokens + (charges.map fun charge => charge.1.tokens).sum := by
  induction charges generalizing tally with
  | nil => simp [recordAll]
  | cons charge rest ih =>
    calc ((tally.record charge.1 charge.2).recordAll rest).tokens
        = (tally.record charge.1 charge.2).tokens + (rest.map fun charge => charge.1.tokens).sum := ih _
      _ = tally.tokens + charge.1.tokens + (rest.map fun charge => charge.1.tokens).sum := by rw [tokens_record]
      _ = tally.tokens + ((charge :: rest).map fun charge => charge.1.tokens).sum := by
        rw [List.map_cons, List.sum_cons, add_assoc]

theorem counted_recordAll (named : "" ∉ charges.filterMap Prod.snd) :
    (tally.recordAll charges).counted = tally.counted + (charges.filterMap Prod.snd).length := by
  induction charges generalizing tally with
  | nil => rfl
  | cons charge rest ih =>
    obtain ⟨usage, function⟩ := charge
    have first : function ≠ some "" := by
      rintro rfl
      exact named (by simp)
    have later : "" ∉ rest.filterMap Prod.snd := by
      intro held
      obtain ⟨charge, member, empty⟩ := List.mem_filterMap.1 held
      exact named (List.mem_filterMap.2 ⟨charge, .tail _ member, empty⟩)
    have recorded := ih (tally.record usage function) later
    rw [counted_record tally usage first] at recorded
    cases function with
    | none => exact recorded
    | some name =>
      change ((tally.record usage (some name)).recordAll rest).counted = _
      have one : (some name).toList.length = 1 := rfl
      have more : (((usage, some name) :: rest).filterMap Prod.snd).length = (rest.filterMap Prod.snd).length + 1 := rfl
      omega

theorem count_recordAll (name : String) : tally.count name ≤ (tally.recordAll charges).count name := by
  induction charges generalizing tally with
  | nil => exact le_rfl
  | cons charge rest ih => exact (tally.count_record charge.1 charge.2 name).trans (ih _)

end Tally

/-- The result of an exchange that is committed: one that returns, unless it fails to be delivered. -/
def Report.committed (report : Report) : Option Result :=
  report.result.toOption.filter fun result => !result.failure.any Failure.isDelivery

namespace Assistant

/-- Charges are of replies that an exchange gets, and for functions that are there. -/
structure Charges (assistant : Assistant) (dialogue : Dialogue) (content : Content) (network : Network)
    (charges : List (Usage × Option String)) : Prop where
  replies : ∀ charge ∈ charges, ∃ reply runs,
    assistant.Gets dialogue content network reply runs ∧ charge.1 = reply.usage
  names : ∀ name ∈ charges.filterMap Prod.snd, name ∈ assistant.toolbox.names

section

variable {assistant : Assistant} {dialogue : Dialogue} {content : Content} {network later : Network}

theorem charges_nil : assistant.Charges dialogue content network [] := ⟨by simp, by simp⟩

theorem Charges.append {first second : List (Usage × Option String)}
    (before : assistant.Charges dialogue content network first)
    (after : assistant.Charges dialogue content network second) :
    assistant.Charges dialogue content network (first ++ second) where
  replies := List.forall_mem_append.2 ⟨before.replies, after.replies⟩
  names := by
    rw [List.filterMap_append]
    exact List.forall_mem_append.2 ⟨before.names, after.names⟩

theorem Gets.charges {reply : Reply} {runs : Journal} (gets : assistant.Gets dialogue content network reply runs) :
    assistant.Charges dialogue content network [(reply.usage, none)] where
  replies := List.forall_mem_singleton.2 ⟨reply, runs, gets, rfl⟩
  names := by simp

theorem Hears.gets {reply : Reply} (hears : assistant.Hears (assistant.opening dialogue content) network reply later) :
    assistant.Gets dialogue content network reply [] := .first hears.answered

theorem Calls.charges {reply : Reply} {call : Tool.Call} {result : Except Failure String} {runs : Journal}
    (calls : assistant.Calls (assistant.opening dialogue content) network reply call result runs later) :
    assistant.Charges dialogue content network [(reply.usage, some call.name)] where
  replies := List.forall_mem_singleton.2 ⟨reply, [], calls.hears.gets, rfl⟩
  names := by
    obtain ⟨spec, member, same, _⟩ := calls.finds.executable
    have there : call.name ∈ assistant.toolbox.names := same ▸ List.mem_map_of_mem member
    simpa using there

/-- A question that ends the exchange adds a charge for the reply it gets, if it gets one. -/
theorem Stops.charges {question : Vendor.Question} {middle : Network} {before trail : Trail} {ending : Ending}
    (stops : assistant.Stops question middle before trail ending later)
    (gets : ∀ reply, assistant.provider.ask question middle = (.ok reply, later) →
      ∃ runs, assistant.Gets dialogue content network reply runs)
    (charged : assistant.Charges dialogue content network before.charges) :
    assistant.Charges dialogue content network trail.charges ∧ trail.call = before.call ∧
      trail.charges.filterMap Prod.snd = before.charges.filterMap Prod.snd := by
  cases stops with
  | unheard | lost | unshown => exact ⟨charged, rfl, rfl⟩
  | rejected answer =>
    obtain ⟨runs, got⟩ := gets _ answer
    exact ⟨charged.append got.charges, rfl, by simp [Trail.reach, Trail.charge]⟩

/-- However an exchange goes, its charges are of its replies, and the call it found is among them. -/
theorem Course.charges {trail : Trail} {ending : Ending}
    (course : assistant.Course dialogue content network trail ending later) :
    assistant.Charges dialogue content network trail.charges ∧
      trail.charges.filterMap Prod.snd = (trail.call.map Tool.Call.name).toList := by
  cases course with
  | stopped stops =>
    obtain ⟨charged, call, names⟩ := stops.charges (fun reply answer => ⟨[], .first answer⟩) charges_nil
    exact ⟨charged, by rw [call, names]; rfl⟩
  | unsearchable => exact ⟨charges_nil, rfl⟩
  | unknown hears | answered hears => exact ⟨hears.gets.charges, rfl⟩
  | uncalled calls | untold calls => exact ⟨calls.charges, rfl⟩
  | stoppedAgain calls stops =>
    obtain ⟨charged, call, names⟩ := stops.charges (fun reply answer => ⟨_, .second calls answer⟩) calls.charges
    exact ⟨charged, by rw [call, names]; rfl⟩
  | answeredAgain calls again =>
    have last := (Gets.second calls again.answered).charges
    exact ⟨calls.charges.append last, rfl⟩

end

/-- What a text sent records is what its exchange charges, and what its result tells of if it is committed. -/
structure Bills (assistant : Assistant) (dialogue : Dialogue) (content : Content) (network : Network)
    (charges : List (Usage × Option String)) : Prop extends assistant.Charges dialogue content network charges where
  recorded : (assistant.send dialogue content network).dialogue.tally = dialogue.tally.recordAll charges
  uncommitted : (assistant.send dialogue content network).committed = none → charges = []
  committed : ∀ result, (assistant.send dialogue content network).committed = some result →
    result.usage = Usage.sum (charges.map Prod.fst) ∧ result.calls = charges.length ∧
      charges.filterMap Prod.snd = (result.call.map Tool.Call.name).toList

theorem send_bills (assistant : Assistant) (dialogue : Dialogue) (content : Content) (network : Network) :
    ∃ charges, assistant.Bills dialogue content network charges := by
  obtain ⟨exchange, ending, later, course, sent⟩ := assistant.send_course dialogue content network
  obtain ⟨charges, names⟩ := course.charges
  have settles := course.settles
  have commits {answer : Option String} (elapsed : Float) (text : String) (finish : Finish) (failure : Option Failure)
      (settled : exchange.settle dialogue ending = exchange.commit dialogue answer)
      (concluded : exchange.conclude (later.clock - network.clock) ending = .ok (exchange.result elapsed text finish failure))
      (delivered : failure.any Failure.isDelivery = false) :
      assistant.Bills dialogue content network exchange.charges := by
    have committed : (assistant.send dialogue content network).committed =
        some (exchange.result elapsed text finish failure) := by
      rw [sent, Report.committed, report, concluded]
      simp [Except.toOption, Exchange.result, delivered]
    refine ⟨charges, ?_, fun none => ?_, fun result some => ?_⟩
    · rw [sent, report, settled, Exchange.commit_eq]
    · cases committed.symm.trans none
    · obtain rfl := Option.some.inj (committed.symm.trans some)
      exact ⟨rfl, rfl, names⟩
  have unchanged (settled : exchange.settle dialogue ending = dialogue)
      (none : (assistant.send dialogue content network).committed = none) :
      assistant.Bills dialogue content network [] := by
    refine ⟨charges_nil, ?_, fun _ => rfl, fun result some => ?_⟩
    · rw [sent, report, settled]
      rfl
    · cases none.symm.trans some
  cases ending with
  | answered text finish => exact ⟨_, commits _ _ _ none rfl rfl rfl⟩
  | rejected failure finish =>
    obtain ⟨_, provider, reason, text, rfl⟩ := settles
    exact ⟨_, commits _ _ _ (some _) rfl rfl rfl⟩
  | uncalled failure =>
    have own : (some failure).any Failure.isDelivery = false := by
      obtain ⟨_, _, ⟨_, _, rfl⟩ | ⟨_, _, _, _, rfl⟩ | ⟨_, _, _, rfl⟩⟩ := settles
      · rfl
      · rfl
      · rfl
    exact ⟨_, commits _ _ _ (some failure) rfl rfl own⟩
  | unheard failure =>
    refine ⟨[], unchanged rfl ?_⟩
    have delivery : failure.isDelivery = true := settles.2
    rw [sent]
    simp [Report.committed, report, Exchange.conclude, Exchange.result, Except.toOption, delivery]
  | broken failure =>
    refine ⟨[], unchanged rfl ?_⟩
    rw [sent]
    rfl

end Assistant

end Parley

