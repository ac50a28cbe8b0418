import Parley.Proofs.Exchange.Protocol
import Parley.Proofs.Extraction.Bounds
import Parley.Proofs.Vendor.Delivery

/-!
The failures that escape an exchange. Most failures are told in the result; the relation `Escapes` lists those that
are not, each with what must arrive for it to occur.
-/

namespace Parley.Assistant

/-- How an exchange ends, read off its questions and answers alone. -/
def verdict (assistant : Assistant) (dialogue : Dialogue) (content : Content) (network : Network) : Ending :=
  let opening := assistant.opening dialogue content
  match assistant.hearing (assistant.provider.ask opening network).1 with
  | .error ending => ending
  | .ok reply =>
      match assistant.finding reply with
      | .error (.unknownFunction name available) => .uncalled (.unknownFunction name available)
      | .error failure => .broken failure
      | .ok found =>
          match found.call with
          | none => .answered reply.text reply.finish
          | some call =>
              match (assistant.toolbox.invoke call.name call.arguments).1 with
              | .error failure => if failure.isOwn then .uncalled failure else .broken failure
              | .ok result =>
                  match assistant.hearing (assistant.provider.ask (opening.following ⟨call.name, call.arguments, result⟩)
                    (assistant.provider.ask opening network).2).1 with
                  | .error ending => ending
                  | .ok last => .answered (spoken result last) last.finish

theorem Calls.verdict {assistant : Assistant} {dialogue : Dialogue} {content : Content} {network later : Network}
    {reply : Reply} {call : Tool.Call} {result : String} {runs : Journal} {ending : Ending}
    (calls : assistant.Calls (assistant.opening dialogue content) network reply call (.ok result) runs later)
    (heard : assistant.hearing (assistant.provider.ask
      ((assistant.opening dialogue content).following ⟨call.name, call.arguments, result⟩) later).1 = .error ending) :
    assistant.verdict dialogue content network = ending := by
  obtain ⟨found, search, is⟩ := calls.finds
  have first := calls.hears.hearing
  rw [calls.hears.answered] at first
  simp only [Assistant.verdict, calls.hears.answered, first, search, is, calls.invoked, heard]

theorem Course.verdict {assistant : Assistant} {dialogue : Dialogue} {content : Content} {network later : Network}
    {trail : Trail} {ending : Ending} (course : assistant.Course dialogue content network trail ending later) :
    assistant.verdict dialogue content network = ending := by
  cases course with
  | stopped stops => simp only [Assistant.verdict, stops.hearing]
  | unsearchable hears search => simp only [Assistant.verdict, hears.hearing, search]
  | unknown hears search => simp only [Assistant.verdict, hears.hearing, search]
  | answered hears search nothing => simp only [Assistant.verdict, hears.hearing, search, nothing]
  | uncalled calls own =>
    obtain ⟨found, search, is⟩ := calls.finds
    simp only [Assistant.verdict, calls.hears.hearing, search, is, calls.invoked, own, if_true]
  | untold calls other =>
    obtain ⟨found, search, is⟩ := calls.finds
    simp only [Assistant.verdict, calls.hears.hearing, search, is, calls.invoked, other, Bool.false_eq_true, if_false]
  | stoppedAgain calls stops => exact calls.verdict stops.hearing
  | answeredAgain calls again =>
    obtain ⟨found, search, is⟩ := calls.finds
    have first := calls.hears.hearing
    rw [calls.hears.answered] at first
    simp only [Assistant.verdict, calls.hears.answered, first, search, is, calls.invoked, again.hearing]

/-- The failures that escape an exchange with a vendor, and what makes them occur. -/
inductive Escapes (assistant : Assistant) (vendor : Vendor) (dialogue : Dialogue) (content : Content)
    (network : Network) : Failure → Prop where
  | lost {failure : Failure} (loses : vendor.Loses network.arrival failure) :
      Escapes assistant vendor dialogue content network failure
  | unshown {reply : Reply}
      (answered : (assistant.provider.ask (assistant.opening dialogue content) network).1 = .ok reply)
      (hidden : assistant.shows reply = false) :
      Escapes assistant vendor dialogue content network (Failure.tooManyDigits none)
  | unsearchable {reply : Reply} {later : Network} {failure : Failure}
      (hears : assistant.Hears (assistant.opening dialogue content) network reply later)
      (search : Extraction.Unsearchable assistant.limit (assistant.reading reply)
        (Extraction.offered (assistant.offered false)) failure) :
      Escapes assistant vendor dialogue content network failure
  | untold {reply : Reply} {later : Network} {call : Tool.Call} {tool : Tool} {value : Json}
      (hears : assistant.Hears (assistant.opening dialogue content) network reply later)
      (finds : assistant.Finds reply call) (found : assistant.toolbox.find? call.name = some tool)
      (accepted : tool.spec.accepts call.arguments.length = true) (ran : tool.run call.arguments = .ok value)
      (unwritable : value.integers.all Text.isWritable = false) :
      Escapes assistant vendor dialogue content network (Failure.tooManyDigits none)
  | lostAgain {reply : Reply} {call : Tool.Call} {result : String} {runs : Journal} {later : Network}
      {failure : Failure}
      (calls : assistant.Calls (assistant.opening dialogue content) network reply call (.ok result) runs later)
      (loses : vendor.Loses later.arrival failure) : Escapes assistant vendor dialogue content network failure
  | unshownAgain {reply last : Reply} {call : Tool.Call} {result : String} {runs : Journal} {later : Network}
      (calls : assistant.Calls (assistant.opening dialogue content) network reply call (.ok result) runs later)
      (answered : (assistant.provider.ask
        ((assistant.opening dialogue content).following ⟨call.name, call.arguments, result⟩) later).1 = .ok last)
      (hidden : assistant.shows last = false) :
      Escapes assistant vendor dialogue content network (Failure.tooManyDigits none)

section

variable {assistant : Assistant} {vendor : Vendor} {dialogue : Dialogue} {content : Content} {network later : Network}
  {question : Vendor.Question} {trail : Trail} {failure : Failure}

/-- A question breaks the exchange if the answer is lost, or if its tokens cannot be shown. -/
theorem Stops.broken_cases {before : Trail} (speaks : assistant.provider.adapter = vendor.adapter)
    (stops : assistant.Stops question network before trail (.broken failure) later) :
    vendor.Loses network.arrival failure ∨
      ∃ reply, (assistant.provider.ask question network).1 = .ok reply ∧ assistant.shows reply = false ∧
        failure = Failure.tooManyDigits none := by
  cases stops with
  | lost answer other =>
    exact .inl ((Vendor.Provider.ask_loses_iff speaks question network failure).1 ⟨by rw [answer], other⟩)
  | unshown answer hidden => exact .inr ⟨_, by rw [answer], hidden, rfl⟩

theorem Course.escapes (speaks : assistant.provider.adapter = vendor.adapter)
    (course : assistant.Course dialogue content network trail (.broken failure) later) :
    assistant.Escapes vendor dialogue content network failure := by
  cases course with
  | stopped stops =>
    obtain loses | ⟨reply, answered, hidden, rfl⟩ := stops.broken_cases speaks
    · exact .lost loses
    · exact .unshown answered hidden
  | unsearchable hears search other => exact .unsearchable hears ((Extraction.search_eq_error other).1 search)
  | untold calls other =>
    have invocation := calls.invocation
    cases invocation with
    | unknown | miscounted | failed => cases other
    | unwritten found accepted ran unwritable =>
      exact .untold calls.hears calls.finds found accepted ran unwritable
  | stoppedAgain calls stops =>
    obtain loses | ⟨reply, answered, hidden, rfl⟩ := stops.broken_cases speaks
    · exact .lostAgain calls loses
    · exact .unshownAgain calls answered hidden

theorem hearing_lost (speaks : assistant.provider.adapter = vendor.adapter)
    (loses : vendor.Loses network.arrival failure) :
    assistant.hearing (assistant.provider.ask question network).1 = .error (.broken failure) := by
  obtain ⟨failed, other⟩ := (Vendor.Provider.ask_loses_iff speaks question network failure).2 loses
  simp only [failed, hearing, other, Bool.false_eq_true, if_false]

theorem hearing_unshown {reply : Reply} (answered : (assistant.provider.ask question network).1 = .ok reply)
    (hidden : assistant.shows reply = false) :
    assistant.hearing (assistant.provider.ask question network).1 =
      .error (.broken (Failure.tooManyDigits none)) := by
  simp only [answered, hearing, hidden, Bool.false_eq_true, if_false]

theorem Escapes.verdict (speaks : assistant.provider.adapter = vendor.adapter)
    (escapes : assistant.Escapes vendor dialogue content network failure) :
    assistant.verdict dialogue content network = .broken failure := by
  cases escapes with
  | lost loses => simp only [Assistant.verdict, hearing_lost speaks loses]
  | unshown answered hidden => simp only [Assistant.verdict, hearing_unshown answered hidden]
  | unsearchable hears search =>
    have other : ∀ name available, failure ≠ .unknownFunction name available := by
      intro name available same
      obtain rfl := same
      cases search.foreign
    have failed := (Extraction.search_eq_error other).2 search
    simp only [Assistant.verdict, hears.hearing, finding, failed]
  | untold hears finds found accepted ran unwritable =>
    obtain ⟨finding, search, is⟩ := finds
    have failed := Toolbox.invoke_unwritten found accepted ran unwritable
    simp only [Assistant.verdict, hears.hearing, search, is, failed]
    rfl
  | lostAgain calls loses => exact calls.verdict (hearing_lost speaks loses)
  | unshownAgain calls answered hidden => exact calls.verdict (hearing_unshown answered hidden)

end

end Parley.Assistant

