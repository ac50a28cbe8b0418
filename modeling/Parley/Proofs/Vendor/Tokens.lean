import Parley.Proofs.Tokens
import Parley.Proofs.Vendor.Stopping

namespace Parley.Vendor

def countsIn (prompt completion total : String) (fields : Fields) : Except Failure (Int × Int × Int) := do
  return (← count (Json.field prompt fields), ← count (Json.field completion fields), ← count (Json.field total fields))

namespace Chat

def counts (dialect : Dialect) (body : Json) : Except Failure (Int × Int × Int) := do
  countsIn "prompt_tokens" "completion_tokens" "total_tokens"
    (← optionalObject dialect.name "usage" "usage" (bodyFields body))

end Chat

namespace Claude

def counts (body : Json) : Except Failure (Int × Int × Int) := do
  let (fields, _) ← blocks body
  let usage ← optionalObject name "usage" "usage" fields
  return (← count (Json.field "input_tokens" usage), ← count (Json.field "output_tokens" usage), 0)

end Claude

namespace Gemini

def chunkCounts (chunk : Fields) : Except Failure (Int × Int × Int) := do
  countsIn "promptTokenCount" "candidatesTokenCount" "totalTokenCount"
    (← optionalObject name "usageMetadata" "usageMetadata" chunk)

def latestCounts (earlier later : Int × Int × Int) : Int × Int × Int :=
  (latestCount later.1 earlier.1, latestCount later.2.1 earlier.2.1, latestCount later.2.2 earlier.2.2)

def counts (body : Json) : Except Failure (Int × Int × Int) := do
  return (← (chunks body).mapM chunkCounts).foldl latestCounts 0

def Stream.counts (stream : Stream) : Int × Int × Int := (stream.prompt, stream.completion, stream.total)

end Gemini

def counts : Vendor → Json → Except Failure (Int × Int × Int)
  | gemini => Gemini.counts
  | gpt => Chat.counts Chat.gpt
  | claude => Claude.counts
  | mistral => Chat.counts Chat.mistral
  | deepseek => Chat.counts Chat.deepseek
  | groq => Chat.counts Chat.groq

theorem countsIn_eq_ok {prompt completion total : String} {fields : Fields} {first second third : Int}
    (one : count (Json.field prompt fields) = .ok first) (two : count (Json.field completion fields) = .ok second)
    (three : count (Json.field total fields) = .ok third) :
    countsIn prompt completion total fields = .ok (first, second, third) := by
  simp only [countsIn, one, two, three]
  rfl

/-- A usage takes over what a body tells of, with the total filled in. -/
structure Tells (usage : Usage) (told : Except Failure (Int × Int × Int)) : Prop where
  filled : usage.IsFilled
  tokens : ∃ counts, told = .ok counts ∧ usage.tokens = Usage.completed counts

theorem tells_filled {usage : Usage} {told : Except Failure (Int × Int × Int)} (same : told = .ok usage.tokens) :
    Tells usage.filled told :=
  ⟨usage.isFilled_filled, _, same, usage.tokens_filled⟩

theorem Chat.usage_tells {dialect : Dialect} {settings : Settings} {elapsed : Number} {body : Json} {reply : Reply}
    (read : Chat.reply dialect settings elapsed body = .ok reply) : Tells reply.usage (Chat.counts dialect body) := by
  have used := Chat.usage_of_reply dialect read
  unfold Chat.usage at used
  obtain ⟨fields, given, used⟩ := bind_eq_ok.1 used
  obtain ⟨prompt, one, used⟩ := bind_eq_ok.1 used
  obtain ⟨completion, two, used⟩ := bind_eq_ok.1 used
  obtain ⟨total, three, used⟩ := bind_eq_ok.1 used
  rw [← Except.ok.inj used]
  refine tells_filled ?_
  rw [Chat.counts, given]
  exact countsIn_eq_ok one two three

theorem Claude.usage_tells {settings : Settings} {elapsed : Number} {body : Json} {reply : Reply}
    (read : Claude.reply settings elapsed body = .ok reply) : Tells reply.usage (Claude.counts body) := by
  obtain ⟨fields, items, found, used⟩ := Claude.usage_of_reply read
  unfold Claude.usage at used
  obtain ⟨given, object, used⟩ := bind_eq_ok.1 used
  obtain ⟨prompt, one, used⟩ := bind_eq_ok.1 used
  obtain ⟨completion, two, used⟩ := bind_eq_ok.1 used
  have told : Claude.counts body = .ok (prompt, completion, 0) := by
    simp only [Claude.counts, found, object, one, two, bind, Except.bind]
    rfl
  rw [← Except.ok.inj used]
  exact tells_filled told

namespace Gemini

theorem counts_addCandidate {stream next : Stream} {candidate : Fields}
    (added : stream.addCandidate candidate = .ok next) : next.counts = stream.counts := by
  unfold Stream.addCandidate at added
  obtain ⟨cited, _, added⟩ := bind_eq_ok.1 added
  obtain ⟨rated, _, added⟩ := bind_eq_ok.1 added
  obtain rfl := Except.ok.inj added
  rfl

theorem counts_addFeedback {stream next : Stream} {feedback : Fields}
    (added : stream.addFeedback feedback = .ok next) : next.counts = stream.counts := by
  unfold Stream.addFeedback at added
  dsimp only at added
  split at added
  next =>
    obtain ⟨rated, _, added⟩ := bind_eq_ok.1 added
    obtain rfl := Except.ok.inj added
    rfl
  next =>
    obtain rfl := Except.ok.inj added
    rfl

theorem counts_addFirst {stream next : Stream} {chunk : Fields} (added : stream.addFirst chunk = .ok next) :
    next.counts = stream.counts := by
  unfold Stream.addFirst at added
  obtain ⟨candidate, _, added⟩ := bind_eq_ok.1 added
  cases candidate with
  | none =>
    obtain rfl := Except.ok.inj added
    rfl
  | some candidate => exact counts_addCandidate added

theorem counts_add {stream next : Stream} {chunk : Fields} (added : stream.add chunk = .ok next) :
    ∃ told, chunkCounts chunk = .ok told ∧ next.counts = latestCounts stream.counts told := by
  rw [add_eq] at added
  obtain ⟨first, candidate, added⟩ := bind_eq_ok.1 added
  obtain ⟨feedback, _, added⟩ := bind_eq_ok.1 added
  obtain ⟨second, noted, added⟩ := bind_eq_ok.1 added
  obtain ⟨metadata, given, added⟩ := bind_eq_ok.1 added
  unfold Stream.addUsage at added
  obtain ⟨prompt, one, added⟩ := bind_eq_ok.1 added
  obtain ⟨completion, two, added⟩ := bind_eq_ok.1 added
  obtain ⟨total, three, added⟩ := bind_eq_ok.1 added
  obtain rfl := Except.ok.inj added
  refine ⟨(prompt, completion, total), ?_, ?_⟩
  · rw [chunkCounts, given]
    exact countsIn_eq_ok one two three
  · rw [← counts_addFirst candidate, ← counts_addFeedback noted]
    rfl

theorem counts_foldlM {stream last : Stream} {chunks : List Fields}
    (added : chunks.foldlM Stream.add stream = .ok last) :
    ∃ told, chunks.mapM chunkCounts = .ok told ∧ last.counts = told.foldl latestCounts stream.counts := by
  induction chunks generalizing stream with
  | nil =>
    obtain rfl := Except.ok.inj added
    exact ⟨[], rfl, rfl⟩
  | cons chunk rest ih =>
    rw [List.foldlM_cons] at added
    obtain ⟨next, first, added⟩ := bind_eq_ok.1 added
    obtain ⟨told, here, same⟩ := counts_add first
    obtain ⟨others, later, last⟩ := ih added
    refine ⟨told :: others, ?_, by rw [last, same, List.foldl_cons]⟩
    rw [List.mapM_cons, here, later]
    rfl

theorem usage_tells {settings : Settings} {elapsed : Number} {body : Json} {reply : Reply}
    (read : Gemini.reply settings elapsed body = .ok reply) : Tells reply.usage (Gemini.counts body) := by
  unfold Gemini.reply at read
  split at read
  next => cases read
  next =>
    obtain ⟨stream, added, read⟩ := bind_eq_ok.1 read
    split at read
    next => cases read
    next =>
      obtain rfl := Except.ok.inj read
      obtain ⟨told, chunks, last⟩ := counts_foldlM added
      refine tells_filled ?_
      rw [Gemini.counts, chunks]
      exact congrArg Except.ok last.symm

end Gemini

/-- Whatever the vendor, a reply takes over what its body tells of. -/
theorem usage_tells {vendor : Vendor} {settings : Settings} {elapsed : Number} {body : Json} {reply : Reply}
    (read : vendor.adapter.reply settings elapsed body = .ok reply) : Tells reply.usage (vendor.counts body) := by
  cases vendor with
  | gemini => exact Gemini.usage_tells read
  | claude => exact Claude.usage_tells read
  | gpt | mistral | deepseek | groq => exact Chat.usage_tells read

/-- An adapter reports every usage with its total filled in. -/
def Adapter.Fills (adapter : Adapter) : Prop :=
  ∀ settings elapsed body reply, adapter.reply settings elapsed body = .ok reply → reply.usage.IsFilled

theorem fills (vendor : Vendor) : vendor.adapter.Fills := fun _ _ _ _ read => (usage_tells read).filled

end Parley.Vendor

