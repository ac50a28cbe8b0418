import Parley.Proofs.Scenario
import Parley.Proofs.Vendor.Credential

namespace Parley

/-- Two reports of the same, but for the value of one header in the posts that were made. -/
structure Report.SameBut (header : String) (left right : Report) : Prop where
  result : left.result = right.result
  dialogue : left.dialogue = right.dialogue
  journal : left.journal = right.journal
  shown : left.shown = right.shown
  network : left.network.SameBut header right.network

namespace Assistant

def keyed (assistant : Assistant) (key : String) : Assistant :=
  { assistant with provider := assistant.provider.keyed key }

theorem ofProvider_keyed (provider : Vendor.Provider) (key : String) (toolbox : Toolbox) (options : Options) :
    ofProvider (provider.keyed key) toolbox options = (ofProvider provider toolbox options).keyed key := rfl

theorem first_keyed (assistant : Assistant) (key : String) : (assistant.keyed key).first = assistant.first := rfl

theorem second_keyed (assistant : Assistant) (key : String) : (assistant.keyed key).second = assistant.second := rfl

theorem question_keyed (assistant : Assistant) (key : String) :
    (assistant.keyed key).question = assistant.question := rfl

variable {header : String} {left right : Network}

theorem report_keyed (dialogue : Dialogue) {started begun : Float} (exchange : Exchange) (ending : Ending)
    (same : started = begun) (networks : left.SameBut header right) :
    (report dialogue started exchange ending left).SameBut header (report dialogue begun exchange ending right) := by
  subst same
  refine ⟨?_, rfl, rfl, rfl, networks⟩
  unfold report
  dsimp only
  rw [networks.clock]

theorem send_keyed {assistant : Assistant} {vendor : Vendor} (speaks : assistant.provider.adapter = vendor.adapter)
    (key : String) (dialogue : Dialogue) (content : Content) (networks : left.SameBut vendor.keyHeader right) :
    (assistant.send dialogue content left).SameBut vendor.keyHeader
      ((assistant.keyed key).send dialogue content right) := by
  have asks (question : Vendor.Question) {left right : Network} (networks : left.SameBut vendor.keyHeader right) :
      (assistant.provider.ask question left).1 = ((assistant.keyed key).provider.ask question right).1 ∧
        (assistant.provider.ask question left).2.SameBut vendor.keyHeader
          ((assistant.keyed key).provider.ask question right).2 :=
    Vendor.Provider.ask_keyed speaks key question networks
  obtain ⟨same, alike⟩ :=
    asks (assistant.question dialogue ((Exchange.begin content).reach .requestSent) false) networks
  unfold send
  rw [first_keyed, second_keyed, question_keyed]
  dsimp only
  rw [← same]
  split
  next exchange ending _ => exact report_keyed dialogue exchange ending networks.clock alike
  next exchange _ =>
    obtain ⟨sameToo, alikeToo⟩ := asks (assistant.question dialogue (exchange.reach .requestSent) true) alike
    rw [← sameToo]
    exact report_keyed dialogue _ _ networks.clock alikeToo

/-- The credential is not seen. An assistant with another one comes to the same results, failures and all, keeps the same
dialogue, and records and shows the same; its posts differ in the value of the header in which each request carries the
credential. Nor do the settings, the provider or a request tell it when they are shown. -/
theorem credential_unseen {assistant : Assistant} {vendor : Vendor}
    (speaks : assistant.provider.adapter = vendor.adapter) (key : String) :
    (∀ (dialogue : Dialogue) (content : Content) (left right : Network), left.SameBut vendor.keyHeader right →
      (assistant.send dialogue content left).SameBut vendor.keyHeader
        ((assistant.keyed key).send dialogue content right)) ∧
    (∀ question : Vendor.Question,
      let request := assistant.provider.adapter.request assistant.provider.settings question
      let other := assistant.provider.adapter.request (assistant.provider.settings.keyed key) question
      request.text = other.text ∧
        request.headers.lookup vendor.keyHeader = some (vendor.credential assistant.provider.settings.apiKey) ∧
        other.headers.lookup vendor.keyHeader = some (vendor.credential key)) ∧
    assistant.provider.settings.text = (assistant.keyed key).provider.settings.text ∧
    assistant.provider.text = (assistant.keyed key).provider.text := by
  refine ⟨fun dialogue content left right networks => send_keyed speaks key dialogue content networks, ?_, rfl, rfl⟩
  intro question
  dsimp only
  rw [speaks]
  obtain ⟨url, body⟩ := vendor.request_keyed assistant.provider.settings key question
  refine ⟨?_, vendor.authenticates _ question, vendor.authenticates _ question⟩
  unfold Vendor.Request.text
  rw [url, body]

def keyedProvider (key : String) : Vendor.Provider :=
  .ofSettings Vendor.gpt.adapter { vendor := "gpt", apiKey := key, model := "model", url := "url" }

theorem echo_credential_unseen :
    ((ofProvider (keyedProvider "one") (.only .echo) {}).send {} (.text "Say hi") .echoing).SameBut "Authorization"
        ((ofProvider (keyedProvider "two") (.only .echo) {}).send {} (.text "Say hi") .echoing) ∧
      ((ofProvider (keyedProvider "two") (.only .echo) {}).send {} (.text "Say hi") .echoing).network.posts.map
        (fun post => post.headers.lookup "Authorization") = [some "Bearer two", some "Bearer two"] := by
  have unseen := @credential_unseen (ofProvider (keyedProvider "one") (.only .echo) {}) .gpt rfl "two"
  rw [← ofProvider_keyed] at unseen
  exact ⟨unseen.1 {} (.text "Say hi") .echoing .echoing (.refl _ _), by decide +kernel⟩

end Assistant

end Parley

