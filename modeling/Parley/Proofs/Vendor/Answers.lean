import Parley.Proofs.Failing
import Parley.Proofs.Scenario
import Parley.Proofs.Text.Fences
import Parley.Proofs.Vendor.Utterance

namespace Parley.Vendor

variable {settings : Settings} {elapsed : Number} {body : Json} {reply : Reply}

theorem Chat.text_of_reply {dialect : Dialect} (read : Chat.reply dialect settings elapsed body = .ok reply) :
    ∃ text, reply.text = Text.answerText text := by
  unfold Chat.reply at read
  obtain ⟨⟨choice, message⟩, _, read⟩ := bind_eq_ok.1 read
  obtain ⟨word, _, read⟩ := bind_eq_ok.1 read
  obtain ⟨text, _, read⟩ := bind_eq_ok.1 read
  obtain ⟨_, _, read⟩ := bind_eq_ok.1 read
  obtain ⟨usage, _, read⟩ := bind_eq_ok.1 read
  obtain rfl := Except.ok.inj read
  exact ⟨_, rfl⟩

theorem Claude.text_of_reply (read : Claude.reply settings elapsed body = .ok reply) :
    ∃ text, reply.text = Text.answerText text := by
  unfold Claude.reply at read
  obtain ⟨⟨fields, items⟩, _, read⟩ := bind_eq_ok.1 read
  obtain ⟨objects, _, read⟩ := bind_eq_ok.1 read
  obtain ⟨word, _, read⟩ := bind_eq_ok.1 read
  obtain ⟨texts, _, read⟩ := bind_eq_ok.1 read
  obtain ⟨_, _, read⟩ := bind_eq_ok.1 read
  obtain ⟨usage, _, read⟩ := bind_eq_ok.1 read
  obtain rfl := Except.ok.inj read
  exact ⟨_, rfl⟩

theorem Gemini.text_of_reply (read : Gemini.reply settings elapsed body = .ok reply) :
    ∃ text, reply.text = Text.answerText text := by
  unfold Gemini.reply at read
  split at read
  next => cases read
  next =>
    obtain ⟨stream, _, read⟩ := bind_eq_ok.1 read
    split at read
    next => cases read
    next =>
      obtain rfl := Except.ok.inj read
      exact ⟨_, rfl⟩

theorem text_of_reply {vendor : Vendor} (read : vendor.adapter.reply settings elapsed body = .ok reply) :
    ∃ text, reply.text = Text.answerText text := by
  cases vendor with
  | gemini => exact Gemini.text_of_reply read
  | claude => exact Claude.text_of_reply read
  | gpt | mistral | deepseek | groq => exact Chat.text_of_reply read

/-- No line of a text that is shown is a fence line; shown again it stays the same; and where a vendor's text has three
backquotes, what is shown are its other lines. Every reply of every adapter has the text that is shown of some text: of the one
that the vendor says, where its body says something. -/
theorem shown_without_fences :
    (∀ text : String,
      (∀ line ∈ Text.lines (Text.answerText text), Text.isFenceLine line.toList = false) ∧
      Text.answerText (Text.answerText text) = Text.answerText text ∧
      (Text.fence <:+: text.toList → Text.answerText text =
        Text.trim ("\n".intercalate ((Text.lines text).filter fun line => !Text.isFenceLine line.toList)))) ∧
    ∀ (vendor : Vendor) (settings : Settings) (elapsed : Number) (body : Json),
      (∀ reply, vendor.adapter.reply settings elapsed body = .ok reply → ∃ text, reply.text = Text.answerText text) ∧
      ∀ utterance, vendor.Utters utterance body → ∃ reply, vendor.adapter.reply settings elapsed body = .ok reply ∧
        reply.text = Text.answerText utterance.text := by
  refine ⟨fun text => ⟨fun line held => Text.isFenceLine_of_mem_lines_answerText held, Text.answerText_answerText text,
    Text.answerText_of_fence⟩, fun vendor settings elapsed body => ⟨fun reply read => text_of_reply read, ?_⟩⟩
  intro utterance utters
  obtain ⟨-, reply, read, saying⟩ := reply_of_utters utters settings elapsed
  exact ⟨reply, read, saying.text⟩

def Chat.fenced : String := "\n ```python\r\nx = 1 ```\x0b\t```\n\n  y = 2\n``` \n"

theorem Chat.fenced_shown :
    Text.fence <:+: fenced.toList ∧ Text.answerText fenced = "x = 1 ```\n\n  y = 2" ∧
      (∀ line ∈ Text.lines (Text.answerText fenced), Text.isFenceLine line.toList = false) ∧
      Text.answerText (Text.answerText fenced) = "x = 1 ```\n\n  y = 2" := by
  have marked : Text.fence <:+: fenced.toList := Text.containsList_iff.1 (by decide +kernel)
  obtain ⟨plain, again, joined⟩ := shown_without_fences.1 fenced
  have shown : Text.answerText fenced = "x = 1 ```\n\n  y = 2" := by
    rw [joined marked]
    decide +kernel
  exact ⟨marked, shown, plain, again.trans shown⟩

end Parley.Vendor

