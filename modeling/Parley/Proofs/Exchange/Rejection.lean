import Parley.Proofs.Exchange.Protocol
import Parley.Proofs.Vendor.Delivery
import Parley.Proofs.Vendor.Stopping

namespace Parley

namespace Vendor.Provider

theorem ask_reads {provider : Provider} {question : Question} {network : Network} {reply : Reply}
    (asked : (provider.ask question network).1 = .ok reply) :
    ∃ elapsed body, provider.adapter.reply provider.settings elapsed body = .ok reply := by
  obtain ⟨elapsed, same⟩ := provider.ask_eq question network
  obtain ⟨body, _, read⟩ := bind_eq_ok.1 (same.symm.trans asked)
  refine ⟨elapsed, body, ?_⟩
  cases given : provider.adapter.reply provider.settings elapsed body with
  | error failure =>
    rw [given] at read
    cases read
  | ok other =>
    rw [given] at read
    exact congrArg Except.ok (Except.ok.inj read)

theorem ask_eq_ok {provider : Provider} {vendor : Vendor} (speaks : provider.adapter = vendor.adapter)
    {question : Question} {network : Network} {reply : Reply} (asked : (provider.ask question network).1 = .ok reply) :
    ∃ elapsed, vendor.adapter.reply provider.settings elapsed reply.body = .ok reply := by
  obtain ⟨elapsed, body, read⟩ := ask_reads asked
  rw [speaks] at read
  exact ⟨elapsed, (body_of_reply read).symm ▸ read⟩

end Vendor.Provider

namespace Assistant

/-- The replies that an exchange gets, each with the runs that have gone before it. -/
inductive Gets (assistant : Assistant) (dialogue : Dialogue) (content : Content) (network : Network) :
    Reply → Journal → Prop where
  | first {reply : Reply} {later : Network}
      (answered : assistant.provider.ask (assistant.opening dialogue content) network = (.ok reply, later)) :
      Gets assistant dialogue content network reply []
  | second {reply last : Reply} {call : Tool.Call} {result : String} {runs : Journal} {later latest : Network}
      (calls : assistant.Calls (assistant.opening dialogue content) network reply call (.ok result) runs later)
      (answered : assistant.provider.ask
        ((assistant.opening dialogue content).following ⟨call.name, call.arguments, result⟩) later = (.ok last, latest)) :
      Gets assistant dialogue content network last runs

/-- The exchange ends in the rejection of a reply, and has run what it had run by then. -/
def Rejects (assistant : Assistant) (dialogue : Dialogue) (content : Content) (network : Network) (reply : Reply)
    (runs : Journal) : Prop :=
  (∃ result, (assistant.send dialogue content network).result = .ok result ∧
    result.failure = some (assistant.rejection reply)) ∧
  (assistant.send dialogue content network).journal.runs = runs

section

variable {assistant : Assistant} {dialogue : Dialogue} {content : Content} {network later middle : Network}
  {reply other : Reply} {call : Tool.Call} {result : String} {runs : Journal} {trail : Trail} {ending : Ending}

theorem Calls.unique {second : Tool.Call} {text : String} {others : Journal}
    (calls : assistant.Calls (assistant.opening dialogue content) network reply call (.ok result) runs later)
    (again : assistant.Calls (assistant.opening dialogue content) network other second (.ok text) others middle) :
    reply = other ∧ call = second ∧ result = text ∧ runs = others ∧ later = middle := by
  obtain ⟨rfl, rfl⟩ := calls.hears.unique again.hears
  obtain rfl := calls.finds.unique again.finds
  obtain ⟨same, rfl⟩ := Prod.mk.inj (calls.invoked.symm.trans again.invoked)
  exact ⟨rfl, rfl, Except.ok.inj same, rfl, rfl⟩

theorem Gets.of_answered (answered : (assistant.provider.ask (assistant.opening dialogue content) network).1 = .ok reply) :
    assistant.Gets dialogue content network reply [] := .first (Prod.ext answered rfl)

/-- What has been run tells the two replies of an exchange apart. -/
theorem Gets.unique (gets : assistant.Gets dialogue content network reply runs)
    (again : assistant.Gets dialogue content network other runs) : reply = other := by
  cases gets with
  | first answered =>
    cases again with
    | first same => exact Except.ok.inj (Prod.mk.inj (answered.symm.trans same)).1
    | second calls => cases calls.invocation.runs_of_ok
  | second calls answered =>
    cases again with
    | first => cases calls.invocation.runs_of_ok
    | second callsToo same =>
      obtain ⟨rfl, rfl, rfl, -, rfl⟩ := calls.unique callsToo
      exact Except.ok.inj (Prod.mk.inj (answered.symm.trans same)).1

theorem Course.of_answered {latest : Network} {found : Extraction.Finding}
    (course : assistant.Course dialogue content network trail ending latest)
    (hears : assistant.Hears (assistant.opening dialogue content) network reply later)
    (search : assistant.finding reply = .ok found) (nothing : found.call = none) :
    trail.charges = [(reply.usage, none)] ∧ ending = .answered reply.text reply.finish := by
  cases course with
  | stopped stops => exact absurd hears stops.not_hears
  | unsearchable other failed | unknown other failed =>
    obtain ⟨rfl, -⟩ := hears.unique other
    cases search.symm.trans failed
  | answered other =>
    obtain ⟨rfl, -⟩ := hears.unique other
    exact ⟨rfl, rfl⟩
  | uncalled calls | untold calls | stoppedAgain calls | answeredAgain calls =>
    obtain ⟨rfl, -⟩ := hears.unique calls.hears
    obtain ⟨other, same, is⟩ := calls.finds
    obtain rfl := Except.ok.inj (search.symm.trans same)
    cases nothing.symm.trans is

theorem Course.stops (course : assistant.Course dialogue content network trail ending later)
    (unheard : ∀ reply latest, ¬assistant.Hears (assistant.opening dialogue content) network reply latest) :
    assistant.Stops (assistant.opening dialogue content) network (.opened content) trail ending later := by
  cases course with
  | stopped stops => exact stops
  | unsearchable hears | unknown hears | answered hears => exact absurd hears (unheard _ _)
  | uncalled calls | untold calls | stoppedAgain calls | answeredAgain calls =>
    exact absurd calls.hears (unheard _ _)

theorem Course.stops_again (course : assistant.Course dialogue content network trail ending later)
    (calls : assistant.Calls (assistant.opening dialogue content) network reply call (.ok result) runs middle)
    (unheard : ∀ last latest, ¬assistant.Hears
      ((assistant.opening dialogue content).following ⟨call.name, call.arguments, result⟩) middle last latest) :
    assistant.Stops ((assistant.opening dialogue content).following ⟨call.name, call.arguments, result⟩) middle
      (.reopened content reply.usage call result runs) trail ending later := by
  obtain ⟨found, search, is⟩ := calls.finds
  cases course with
  | stopped stops => exact absurd calls.hears stops.not_hears
  | unsearchable hears failed | unknown hears failed =>
    obtain ⟨rfl, _⟩ := calls.hears.unique hears
    cases search.symm.trans failed
  | answered hears same nothing =>
    obtain ⟨rfl, _⟩ := calls.hears.unique hears
    obtain rfl := Except.ok.inj (search.symm.trans same)
    cases is.symm.trans nothing
  | uncalled others | untold others =>
    obtain ⟨rfl, _⟩ := calls.hears.unique others.hears
    obtain rfl := calls.finds.unique others.finds
    cases (Prod.mk.inj (calls.invoked.symm.trans others.invoked)).1
  | stoppedAgain others stops =>
    obtain ⟨rfl, rfl, rfl, rfl, rfl⟩ := calls.unique others
    exact stops
  | answeredAgain others again =>
    obtain ⟨rfl, rfl, rfl, rfl, rfl⟩ := calls.unique others
    exact absurd again (unheard _ _)

/-- A reply that is rejected ends the exchange there. -/
theorem Gets.rejected (gets : assistant.Gets dialogue content network reply runs)
    (course : assistant.Course dialogue content network trail ending later) (shown : assistant.shows reply = true)
    (rejected : reply.isRejection = true) :
    ending = .rejected (assistant.rejection reply) reply.finish ∧ trail.runs = runs := by
  have unheard {question : Vendor.Question} {network after : Network}
      (answered : assistant.provider.ask question network = (.ok reply, after)) :
      ∀ other latest, ¬assistant.Hears question network other latest := by
    intro other latest hears
    obtain rfl := Except.ok.inj (Prod.mk.inj (answered.symm.trans hears.answered)).1
    cases rejected.symm.trans hears.accepted
  have told {question : Vendor.Question} {network after : Network} {before : Trail}
      (answered : assistant.provider.ask question network = (.ok reply, after))
      (stops : assistant.Stops question network before trail ending later) :
      ending = .rejected (assistant.rejection reply) reply.finish := by
    have heard := stops.hearing
    rw [answered] at heard
    simp only [hearing, shown, rejected, if_true] at heard
    exact (Except.error.inj heard).symm
  cases gets with
  | first answered =>
    have stops := course.stops (unheard answered)
    exact ⟨told answered stops, stops.runs_eq⟩
  | second calls answered =>
    have stops := course.stops_again calls (unheard answered)
    exact ⟨told answered stops, stops.runs_eq⟩

/-- Only a reply that is rejected ends the exchange as one that is. -/
theorem Course.gets {failure : Failure} {finish : Finish}
    (course : assistant.Course dialogue content network trail (.rejected failure finish) later) :
    ∃ reply, assistant.Gets dialogue content network reply trail.runs ∧ assistant.shows reply = true ∧
      reply.isRejection = true := by
  cases course with
  | stopped stops =>
    cases stops with
    | rejected answer shown rejected => exact ⟨_, .first answer, shown, rejected⟩
  | stoppedAgain calls stops =>
    cases stops with
    | rejected answer shown rejected => exact ⟨_, .second calls answer, shown, rejected⟩

theorem Gets.rejects_iff (gets : assistant.Gets dialogue content network reply runs) :
    assistant.Rejects dialogue content network reply runs ↔
      reply.isRejection = true ∧ assistant.shows reply = true := by
  obtain ⟨exchange, ending, later, course, sent⟩ := assistant.send_course dialogue content network
  unfold Rejects
  rw [sent]
  constructor
  · intro holds
    obtain ⟨⟨result, returned, failed⟩, ran⟩ := holds
    obtain ⟨returns, _, told⟩ := Exchange.conclude_ok returned
    have settles := course.settles
    have same := told.symm.trans failed
    cases ending with
    | rejected failure finish =>
      obtain ⟨other, getsToo, shown, rejected⟩ := course.gets
      obtain rfl : exchange.trail.runs = runs := ran
      obtain rfl := gets.unique getsToo
      exact ⟨rejected, shown⟩
    | answered => cases same
    | broken => cases returns
    | uncalled failure =>
      obtain ⟨_, _, ⟨_, _, rfl⟩ | ⟨_, _, _, _, rfl⟩ | ⟨_, _, _, rfl⟩⟩ := settles
      all_goals cases same
    | unheard failure =>
      obtain rfl := Option.some.inj same
      cases settles.2
  · intro holds
    obtain ⟨rejected, shown⟩ := holds
    obtain ⟨rfl, ran⟩ := gets.rejected course shown rejected
    exact ⟨⟨_, rfl, rfl⟩, ran⟩

end

/-- A reply whose body says that the vendor stopped for reasons of policy is a rejection unless its body masks the stop,
and an exchange that gets it ends there, in a rejection with nothing more run, unless the tokens of the reply cannot be
shown. -/
theorem stop_rejected_iff {assistant : Assistant} {vendor : Vendor} (speaks : assistant.provider.adapter = vendor.adapter) :
    (∀ settings elapsed body reply, vendor.adapter.reply settings elapsed body = .ok reply → vendor.Stopped body →
      (reply.isRejection = true ↔ ¬vendor.Masked body)) ∧
    ∀ dialogue content network reply runs, assistant.Gets dialogue content network reply runs →
      vendor.Stopped reply.body →
        (assistant.Rejects dialogue content network reply runs ↔
          ¬vendor.Masked reply.body ∧ assistant.shows reply = true) := by
  refine ⟨fun _ _ _ _ read stopped => Vendor.isRejection_iff read stopped, ?_⟩
  intro dialogue content network reply runs gets stopped
  have read : ∃ elapsed, vendor.adapter.reply assistant.provider.settings elapsed reply.body = .ok reply := by
    cases gets with
    | first answered | second _ answered => exact Vendor.Provider.ask_eq_ok speaks (congrArg Prod.fst answered)
  obtain ⟨elapsed, read⟩ := read
  rw [gets.rejects_iff, Vendor.isRejection_iff read stopped]

def refusedEcho : Json :=
  Vendor.Chat.saying [("refusal", "I cannot help with that."),
    ("tool_calls", .list [.object [("function", .object [("name", "echo"), ("arguments", .list ["hi"])])]])]

theorem refused_echo_rejected :
    ∃ reply, (plain .gpt (.only .echo)).Gets {} (.text "Say hi") (.answering [refusedEcho]) reply [] ∧
      Vendor.gpt.Stopped reply.body ∧
      (plain .gpt (.only .echo)).Rejects {} (.text "Say hi") (.answering [refusedEcho]) reply [] := by
  have refuses : ((((plain .gpt (.only .echo)).provider.ask ((plain .gpt (.only .echo)).opening {} (.text "Say hi"))
      (.answering [refusedEcho])).1.toOption.bind fun reply => (Vendor.Chat.message Vendor.Chat.gpt reply.body).toOption).map
        fun read => (Json.field "refusal" read.2).isTruthy) = some true := by
    decide +kernel
  obtain ⟨⟨choice, message⟩, read, refuses⟩ := Option.map_eq_some_iff.1 refuses
  obtain ⟨reply, answered, read⟩ := Option.bind_eq_some_iff.1 read
  have found := eq_ok_of_toOption read
  have gets : (plain .gpt (.only .echo)).Gets {} (.text "Say hi") (.answering [refusedEcho]) reply [] :=
    .of_answered (eq_ok_of_toOption answered)
  have stopped : Vendor.gpt.Stopped reply.body := ⟨choice, message, found, .inr refuses⟩
  have open_stop : ¬Vendor.gpt.Masked reply.body := by
    intro masked
    obtain ⟨_, _, same, goesOn, _⟩ := masked
    obtain ⟨rfl, rfl⟩ := Prod.mk.inj (Except.ok.inj (found.symm.trans same))
    cases refuses.symm.trans goesOn
  exact ⟨reply, gets, stopped, ((stop_rejected_iff rfl).2 _ _ _ _ _ gets stopped).2 ⟨open_stop, rfl⟩⟩

/-- A body in which content was filtered, and a function is called all the same. -/
def filteredEcho : Json :=
  .object [("choices", .list [.object [("finish_reason", "content_filter"), ("message", .object
    [("tool_calls", .list [.object [("function", .object [("name", "echo"), ("arguments", .list ["hi"])])]])])]])]

def filteringEcho : Network := .answering [filteredEcho, Vendor.Chat.saying [("content", "It said hi.")]]

/-- A call masks a stop: the function is run, and the exchange ends in an answer. -/
theorem filtered_echo_runs :
    Vendor.gpt.Stopped filteredEcho ∧
    (Vendor.gpt.adapter.reply (plain .gpt (.only .echo)).provider.settings 0 filteredEcho).toOption.map
      Reply.isRejection = some false ∧
    ((plain .gpt (.only .echo)).send {} (.text "Say hi") filteringEcho).journal.runs = [Toolbox.invoking "echo"] ∧
    ((plain .gpt (.only .echo)).send {} (.text "Say hi") filteringEcho).result.toOption.map Result.ok = some true := by
  exact ⟨⟨_, _, rfl, .inl rfl⟩, by decide +kernel⟩

end Assistant

end Parley

