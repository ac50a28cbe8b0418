import Parley.Proofs.CommandLine.Prompts
import Parley.Proofs.Exchange.Billing
import Parley.Proofs.Exchange.Interchange

namespace Parley

namespace Usage

/-- No count has too many digits to be written. -/
def Countable (usage : Usage) : Prop :=
  ∀ count ∈ [usage.prompt, usage.completion, usage.total], Text.isWritable count = true

instance (usage : Usage) : Decidable usage.Countable :=
  inferInstanceAs (Decidable (∀ count ∈ [usage.prompt, usage.completion, usage.total], Text.isWritable count = true))

theorem Countable.of_tokens {usage other : Usage} (countable : usage.Countable) (same : usage.tokens = other.tokens) :
    other.Countable := by
  simp only [tokens, Prod.mk.injEq] at same
  rwa [Countable, ← same.1, ← same.2.1, ← same.2.2]

theorem writing_of_not_countable {usage : Usage} (endless : ¬usage.Countable) (text : String) :
    Failure.writing [usage.prompt, usage.completion, usage.total] text = .error (.tooManyDigits none) := by
  rw [Countable, ← List.all_eq_true] at endless
  exact if_neg endless

end Usage

namespace Assistant

theorem isFilled_of_send {assistant : Assistant} {dialogue : Dialogue} {content : Content} {network : Network}
    {result : Result} (returned : (assistant.send dialogue content network).result = .ok result) :
    result.usage.IsFilled := by
  obtain ⟨exchange, ending, later, -, sent⟩ := assistant.send_course dialogue content network
  rw [sent] at returned
  obtain ⟨-, _, _, rfl⟩ := Exchange.conclude_eq_ok returned
  exact Usage.isFilled_sum _

end Assistant

namespace CommandLine

def tokensText (usage : Usage) : String :=
  s!"{Text.intText usage.prompt} + {Text.intText usage.completion} = {Text.intText usage.total}"

def usageText (result : Result) : String :=
  s!"[tokens {tokensText result.usage}, {Text.natText result.calls} call(s), {seconds (.float result.elapsed)}s]"

theorem usageLine_of_countable {result : Result} (countable : result.usage.Countable) :
    usageLine result = .ok (usageText result) := by
  have written : result.usage.text = .ok (tokensText result.usage) := Failure.writing_eq_ok countable _
  rw [usageLine, written]
  rfl

theorem usageLine_of_not_countable {result : Result} (endless : ¬result.usage.Countable) :
    usageLine result = .error (.tooManyDigits none) := by
  rw [usageLine, Usage.text, Usage.writing_of_not_countable endless]
  rfl

namespace Chat

def statisticsLine (elapsed : Number) (tokens : Int × Int × Int) : String :=
  s!"Statistics: Elapsed time: {seconds elapsed} secs, Tokens in: {Text.intText tokens.1} out: {Text.intText tokens.2.1} all: {Text.intText tokens.2.2}"

theorem close_some (chat : Chat) (failure : Failure) : chat.close (some failure) = (chat, some failure) := rfl

-- The limit of digits is too large to be evaluated, so a chat is closed by what its statistics come to.
theorem close_of_ok {chat : Chat} {line : String} (written : chat.statistics = .ok line) :
    chat.close none = (chat.print [line], none) := by
  unfold close
  rw [written]

theorem close_of_error {chat : Chat} {failure : Failure} (unwritten : chat.statistics = .error failure) :
    chat.close none = (chat, some failure) := by
  unfold close
  rw [unwritten]

theorem close_of_countable {chat : Chat} (countable : chat.usage.Countable) :
    chat.close none = (chat.print [statisticsLine chat.usage.elapsed chat.usage.tokens], none) :=
  close_of_ok (Failure.writing_eq_ok countable _)

theorem close_of_not_countable {chat : Chat} (endless : ¬chat.usage.Countable) :
    chat.close none = (chat, some (.tooManyDigits none)) :=
  close_of_error (Usage.writing_of_not_countable endless _)

def answerLines (result : Result) : List String :=
  if isFatal result.failure then ["Error (aborting): " ++ result.text]
  else ["> " ++ result.text] ++ annotationLines result ++ [usageText result, invitation]

def heard (chat : Chat) (report : Report) (result : Result) : Chat where
  network := report.network
  dialogue := report.dialogue
  usage := chat.usage + result.usage
  printed := chat.printed ++ report.shown ++ answerLines result
  journal := chat.journal ++ report.journal

section

variable {assistant : Assistant} {chat : Chat} {prompt : String} {result : Result}

theorem conclude_send_of_countable
    (returned : (assistant.send chat.dialogue (.text prompt) chat.network).result = .ok result)
    (countable : result.usage.Countable) :
    conclude (chat.send assistant prompt) =
      (chat.heard (assistant.send chat.dialogue (.text prompt) chat.network) result, none) := by
  have line := usageLine_of_countable countable
  cases fatal : isFatal result.failure with
  | true => simp [send, returned, fatal, conclude, heard, answerLines, print]
  | false => simp [send, returned, fatal, line, conclude, heard, answerLines, print]

theorem close_send_of_not_countable (fresh : chat.usage = {})
    (returned : (assistant.send chat.dialogue (.text prompt) chat.network).result = .ok result)
    (endless : ¬result.usage.Countable) :
    ∃ after, (conclude (chat.send assistant prompt)).1.close (conclude (chat.send assistant prompt)).2 =
        (after, some (.tooManyDigits none)) ∧
      after.network = (assistant.send chat.dialogue (.text prompt) chat.network).network ∧
      after.dialogue = (assistant.send chat.dialogue (.text prompt) chat.network).dialogue := by
  have line := usageLine_of_not_countable endless
  have same := Usage.tokens_empty_add (Assistant.isFilled_of_send returned)
  cases fatal : isFatal result.failure with
  | true =>
    simp only [send, returned, fatal, if_true, conclude]
    refine ⟨_, close_of_not_countable fun countable => endless (Usage.Countable.of_tokens countable ?_), rfl, rfl⟩
    change (chat.usage + result.usage).tokens = _
    rw [fresh, same]
  | false =>
    simp only [send, returned, fatal, line, Bool.false_eq_true, if_false, conclude]
    exact ⟨_, close_some _ _, rfl, rfl⟩

theorem obey_keeps (assistant : Assistant) (chat : Chat) (directive : Directive) :
    (chat.obey assistant directive).network = chat.network ∧ (chat.obey assistant directive).usage = chat.usage := by
  cases directive with
  | _ => exact ⟨rfl, rfl⟩

theorem obeyAll_keeps (assistant : Assistant) (chat : Chat) (directives : List Directive) :
    (chat.obeyAll assistant directives).network = chat.network ∧
      (chat.obeyAll assistant directives).usage = chat.usage := by
  unfold obeyAll
  induction directives generalizing chat with
  | nil => exact ⟨rfl, rfl⟩
  | cons directive rest ih =>
    obtain ⟨network, usage⟩ := obey_keeps assistant (chat.print [invitation]) directive
    obtain ⟨networkLater, usageLater⟩ := ih ((chat.print [invitation]).obey assistant directive)
    exact ⟨networkLater.trans network, usageLater.trans usage⟩

end

section

variable (assistant : Assistant) (network : Network) (input : String)

def ready : Chat :=
  ({ network := network, printed := greeting assistant } : Chat).obeyAll assistant (Doings.of (typed input)).directives

def answered (prompt : String) : Report :=
  assistant.send (ready assistant network input).dialogue (.text prompt) network

theorem network_ready : (ready assistant network input).network = network := (obeyAll_keeps _ _ _).1

theorem usage_ready : (ready assistant network input).usage = {} := (obeyAll_keeps _ _ _).2

theorem answered_eq (prompt : String) :
    assistant.send (ready assistant network input).dialogue (.text prompt) (ready assistant network input).network =
      answered assistant network input prompt := by
  rw [network_ready]
  rfl

theorem whole_eq :
    whole assistant (readsOf input) network =
      let last := (Doings.of (typed input)).message.elim (ready assistant network input, none) fun prompt =>
        conclude ((ready assistant network input).send assistant prompt)
      last.1.close last.2 := by
  rw [whole, readsOf_eq, run_lines]
  rfl

/-- How a chat is to go. It carries out the commands of its input, which use nothing of the network, and sends what is left
as one message, if anything is. Its statistics tell of the tokens of that message's result. -/
structure Completes : Prop where
  idle : (ready assistant network input).network = network
  unsent : (Doings.of (typed input)).message = none →
    whole assistant (readsOf input) network =
      ((ready assistant network input).print [statisticsLine (.float 0.0) 0], none)
  sent : ∀ prompt result, (Doings.of (typed input)).message = some prompt →
    (answered assistant network input prompt).result = .ok result →
    whole assistant (readsOf input) network =
      (((ready assistant network input).heard (answered assistant network input prompt) result).print
        [statisticsLine (.float 0.0 + result.usage.elapsed) result.usage.tokens], none)

end

section

variable {assistant : Assistant} {network : Network} {input : String}

theorem whole_of_silent (silent : (Doings.of (typed input)).message = none) :
    whole assistant (readsOf input) network =
      ((ready assistant network input).print [statisticsLine (.float 0.0) 0], none) := by
  have nothing : (ready assistant network input).usage.Countable := by
    rw [usage_ready]
    decide +kernel
  rw [whole_eq, silent]
  refine (close_of_countable nothing).trans ?_
  rw [usage_ready]
  rfl

section

variable {prompt : String} {result : Result}

theorem whole_of_countable (message : (Doings.of (typed input)).message = some prompt)
    (returned : (answered assistant network input prompt).result = .ok result) (countable : result.usage.Countable) :
    whole assistant (readsOf input) network =
      (((ready assistant network input).heard (answered assistant network input prompt) result).print
        [statisticsLine (.float 0.0 + result.usage.elapsed) result.usage.tokens], none) := by
  have tokens := Usage.tokens_empty_add (Assistant.isFilled_of_send returned)
  have elapsed := Usage.elapsed_add {} result.usage
  have used : ((ready assistant network input).heard (answered assistant network input prompt) result).usage =
      {} + result.usage := congrArg (· + result.usage) (usage_ready assistant network input)
  have written : ((ready assistant network input).heard (answered assistant network input prompt) result).usage.Countable :=
    used ▸ countable.of_tokens tokens.symm
  rw [← answered_eq] at returned
  rw [whole_eq, message, Option.elim_some, conclude_send_of_countable returned countable, answered_eq]
  refine (close_of_countable written).trans ?_
  rw [used, tokens, elapsed]

theorem whole_of_not_countable (message : (Doings.of (typed input)).message = some prompt)
    (returned : (answered assistant network input prompt).result = .ok result) (endless : ¬result.usage.Countable) :
    ∃ after, whole assistant (readsOf input) network = (after, some (.tooManyDigits none)) ∧
      after.network = (answered assistant network input prompt).network ∧
      after.dialogue = (answered assistant network input prompt).dialogue := by
  rw [← answered_eq] at returned ⊢
  rw [whole_eq, message, Option.elim_some]
  exact close_send_of_not_countable (usage_ready assistant network input) returned endless

end

end

/-- Whatever is typed is read line by line and nothing of it is lost, and every chat comes to its end. It completes exactly
if the tokens of its message's result can be written, should that message have a result; where they cannot, the message has
been sent all the same, but the statistics are missing. -/
theorem chat_completes_iff (assistant : Assistant) (network : Network) (input : String) :
    ((∀ line ∈ typed input, '\n' ∉ line.toList) ∧
      (String.join ((typed input).map (· ++ "\n")) = input ∨
        String.join ((typed input).map (· ++ "\n")) = input ++ "\n")) ∧
    (Completes assistant network input ↔
      ∀ prompt result, (Doings.of (typed input)).message = some prompt →
        (answered assistant network input prompt).result = .ok result → result.usage.Countable) ∧
    ∀ prompt result, (Doings.of (typed input)).message = some prompt →
      (answered assistant network input prompt).result = .ok result → ¬result.usage.Countable →
      ∃ after, whole assistant (readsOf input) network = (after, some (.tooManyDigits none)) ∧
        after.network = (answered assistant network input prompt).network ∧
        after.dialogue = (answered assistant network input prompt).dialogue := by
  refine ⟨typed_lossless input, ⟨fun completes prompt result message returned => ?_, fun countable => ?_⟩,
    fun prompt result message returned => whole_of_not_countable message returned⟩
  · by_contra endless
    obtain ⟨after, broken, -⟩ := whole_of_not_countable message returned endless
    cases (Prod.mk.inj (broken.symm.trans (completes.sent prompt result message returned))).2
  · exact {
      idle := network_ready assistant network input
      unsent := whole_of_silent
      sent := fun prompt result message returned =>
        whole_of_countable message returned (countable prompt result message returned) }

def greetingInput : String := "system\n clear \nHello\nquit\n"

def greetingNetwork : Network :=
  .answering [Vendor.Chat.spending 10 5 (Vendor.Chat.saying [("content", "Hi there")])]

theorem greeting_completes :
    Doings.of (typed greetingInput) = ⟨[.persona, .forget], some "Hello\nquit"⟩ ∧
      Completes (.plain .gpt {}) greetingNetwork greetingInput := by
  have doings : Doings.of (typed greetingInput) = ⟨[.persona, .forget], some "Hello\nquit"⟩ := by decide +kernel
  have tokens : (answered (.plain .gpt {}) greetingNetwork greetingInput "Hello\nquit").result.toOption.map
      (fun result => result.usage.tokens) = some (10, 5, 15) := by decide +kernel
  refine ⟨doings, (chat_completes_iff _ _ _).2.1.2 fun prompt result message returned => ?_⟩
  rw [doings] at message
  obtain rfl := Option.some.inj message
  rw [returned] at tokens
  have same : Usage.tokens { prompt := 10, completion := 5, total := 15 } = result.usage.tokens :=
    (Option.some.inj tokens).symm
  exact Usage.Countable.of_tokens (by decide +kernel) same

/-- The statistics are missing after a message whose tokens cannot be added up in so many digits. -/
theorem overflowing_breaks_off :
    Doings.of (typed "Hi") = ⟨[], some "Hi"⟩ ∧
      ¬Completes (.plain .claude {}) (.answering [Vendor.claude.body Assistant.overflowing]) "Hi" := by
  have doings : Doings.of (typed "Hi") = ⟨[], some "Hi"⟩ := by decide +kernel
  have message : (Doings.of (typed "Hi")).message = some "Hi" := congrArg Doings.message doings
  have speaks : (Assistant.plain .claude {}).provider.adapter = Vendor.claude.adapter := rfl
  have quiet : (Assistant.plain .claude {}).options.verbose = false := rfl
  obtain ⟨result, returned, _, tokens⟩ := Assistant.send_of_delivers speaks rfl quiet rfl
    (Assistant.delivers_overflowing [])
    (ready (.plain .claude {}) (.answering [Vendor.claude.body Assistant.overflowing]) "Hi").dialogue (.text "Hi")
  have endless : ¬result.usage.Countable := by
    intro countable
    have total : result.usage.total = (Assistant.overflowing.total : Int) := congrArg (fun counts => counts.2.2) tokens
    have written : Text.isWritable result.usage.total = true := countable _ (by simp)
    rw [total, Assistant.total_overflowing, Text.not_isWritable_endless] at written
    cases written
  refine ⟨doings, fun completes => ?_⟩
  obtain ⟨after, broken, -⟩ := whole_of_not_countable message returned endless
  cases (Prod.mk.inj (broken.symm.trans (completes.sent "Hi" result message returned))).2

end Chat

end CommandLine

end Parley

