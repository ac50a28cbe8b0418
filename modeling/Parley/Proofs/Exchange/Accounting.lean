import Parley.Proofs.Exchange.Billing
import Parley.Proofs.Vendor.Tokens

namespace Parley

/-- What can be done with a dialogue. Turns that are added by hand come with no usage. -/
inductive Deed where
  | sent (sending : Sending)
  | added (turns : List Turn)
  | reset

/-- A dialogue and the results of the exchanges that were committed to it since it was last reset. -/
structure Account where
  dialogue : Dialogue
  results : List Result := []

/-- An assistant whose adapter fills in totals, as all of them do, and whose functions have names. -/
structure Sending.Regular (sending : Sending) : Prop where
  fills : sending.assistant.provider.adapter.Fills
  named : "" ∉ sending.assistant.toolbox.names

namespace Account

def opened (turns : List Turn) : Account := { dialogue := { turns := turns } }

def after (account : Account) : Deed → Account
  | .sent sending =>
      let report := sending.assistant.send account.dialogue sending.content sending.network
      ⟨report.dialogue, account.results ++ report.committed.toList⟩
  | .added turns => { account with dialogue := account.dialogue.extend turns }
  | .reset => { dialogue := account.dialogue.reset }

def afterAll (account : Account) (deeds : List Deed) : Account := deeds.foldl after account

/-- What was recorded is what the results tell of. -/
structure Balanced (account : Account) : Prop where
  recorded : account.dialogue.tally.tokens = (account.dialogue.tally.calls.map Usage.tokens).sum
  told : (∀ usage ∈ account.dialogue.tally.calls, 0 ≤ usage.tokens) →
    account.dialogue.tally.tokens = (account.results.map fun result => result.usage.tokens).sum
  calls : account.dialogue.tally.calls.length = (account.results.map Result.calls).sum
  functions : account.dialogue.tally.counted = (account.results.filter fun result => result.call.isSome).length

end Account

namespace Assistant

variable {assistant : Assistant} {dialogue : Dialogue} {content : Content} {network : Network}

theorem Gets.isFilled {reply : Reply} {runs : Journal} (fills : assistant.provider.adapter.Fills)
    (gets : assistant.Gets dialogue content network reply runs) : reply.usage.IsFilled := by
  have answered {question : Vendor.Question} {before after : Network}
      (asked : assistant.provider.ask question before = (.ok reply, after)) : reply.usage.IsFilled := by
    obtain ⟨elapsed, body, read⟩ := Vendor.Provider.ask_reads (congrArg Prod.fst asked)
    exact fills _ _ _ _ read
  cases gets with
  | first asked | second _ asked => exact answered asked

variable {charges : List (Usage × Option String)}

theorem Bills.told (bills : assistant.Bills dialogue content network charges) :
    ((assistant.send dialogue content network).committed.toList.map Result.calls).sum = charges.length ∧
      ((assistant.send dialogue content network).committed.toList.filter fun result => result.call.isSome).length =
        (charges.filterMap Prod.snd).length := by
  cases committed : (assistant.send dialogue content network).committed with
  | none =>
    obtain rfl := bills.uncommitted committed
    exact ⟨rfl, rfl⟩
  | some result =>
    obtain ⟨_, calls, names⟩ := bills.committed result committed
    refine ⟨by simp [calls], ?_⟩
    rw [names]
    cases called : result.call with
    | none => simp [called]
    | some call => simp [called]

theorem Bills.tokens (bills : assistant.Bills dialogue content network charges)
    (fills : assistant.provider.adapter.Fills) (natural : ∀ charge ∈ charges, 0 ≤ charge.1.tokens) :
    ((assistant.send dialogue content network).committed.toList.map fun result => result.usage.tokens).sum =
      (charges.map fun charge => charge.1.tokens).sum := by
  cases committed : (assistant.send dialogue content network).committed with
  | none =>
    obtain rfl := bills.uncommitted committed
    rfl
  | some result =>
    obtain ⟨usage, _, _⟩ := bills.committed result committed
    have filled : ∀ usage ∈ charges.map Prod.fst, usage.IsFilled := by
      intro usage member
      obtain ⟨charge, held, rfl⟩ := List.mem_map.1 member
      obtain ⟨reply, runs, gets, same⟩ := bills.replies charge held
      exact same ▸ gets.isFilled fills
    calc ([result].map fun result => result.usage.tokens).sum
        = (Usage.sum (charges.map Prod.fst)).tokens := by rw [← usage]; exact List.sum_singleton
      _ = ((charges.map Prod.fst).map Usage.tokens).sum :=
        ((Usage.sums_sum (charges.map Prod.fst)).tokens filled (by simpa using natural)).2
      _ = (charges.map fun charge => charge.1.tokens).sum := by rw [List.map_map]; rfl

end Assistant

namespace Account

theorem balanced_opened (turns : List Turn) : (opened turns).Balanced := ⟨rfl, fun _ => rfl, rfl, rfl⟩

theorem Balanced.sent {account : Account} (balanced : account.Balanced) {sending : Sending} (regular : sending.Regular) :
    (account.after (.sent sending)).Balanced := by
  obtain ⟨charges, bills⟩ := sending.assistant.send_bills account.dialogue sending.content sending.network
  obtain ⟨calls, functions⟩ := bills.told
  have tally : (account.after (.sent sending)).dialogue.tally = account.dialogue.tally.recordAll charges := bills.recorded
  have results : (account.after (.sent sending)).results = account.results ++
    (sending.assistant.send account.dialogue sending.content sending.network).committed.toList := rfl
  refine ⟨?_, fun natural => ?_, ?_, ?_⟩
  · rw [tally, Tally.tokens_recordAll, Tally.calls_recordAll, balanced.recorded, List.map_append, List.sum_append,
      List.map_map]
    rfl
  · rw [tally, Tally.calls_recordAll, List.forall_mem_append] at natural
    have charged := bills.tokens regular.fills (by simpa using natural.2)
    rw [tally, results, Tally.tokens_recordAll, balanced.told natural.1, List.map_append, List.sum_append, charged]
  · rw [tally, results, Tally.calls_recordAll, List.length_append, List.length_map, balanced.calls, List.map_append,
      List.sum_append, calls]
  · have named : "" ∉ charges.filterMap Prod.snd := fun held => regular.named (bills.names "" held)
    rw [tally, results, Tally.counted_recordAll _ _ named, balanced.functions, List.filter_append, List.length_append,
      functions]

theorem Balanced.after {account : Account} (balanced : account.Balanced) {deed : Deed}
    (regular : ∀ sending, deed = .sent sending → sending.Regular) : (account.after deed).Balanced := by
  cases deed with
  | sent sending => exact balanced.sent (regular sending rfl)
  | added turns => exact ⟨balanced.recorded, balanced.told, balanced.calls, balanced.functions⟩
  | reset => exact balanced_opened []

theorem Balanced.afterAll {account : Account} (balanced : account.Balanced) {deeds : List Deed}
    (regular : ∀ sending, .sent sending ∈ deeds → sending.Regular) : (account.afterAll deeds).Balanced := by
  induction deeds generalizing account with
  | nil => exact balanced
  | cons deed rest ih =>
    refine ih (balanced.after fun sending same => regular sending (same ▸ List.mem_cons_self)) fun sending later => ?_
    exact regular sending (List.mem_cons_of_mem _ later)

theorem tally_of_uncommitted {account : Account} {sending : Sending}
    (uncommitted : (sending.assistant.send account.dialogue sending.content sending.network).committed = none) :
    (account.after (.sent sending)).dialogue.tally = account.dialogue.tally := by
  obtain ⟨charges, bills⟩ := sending.assistant.send_bills account.dialogue sending.content sending.network
  obtain rfl := bills.uncommitted uncommitted
  exact bills.recorded

/-- Whatever is done with a dialogue that starts without any usage: where no count is negative, its counters are the sums
of the recorded calls' and of the results', and its calls and its functions' are as many as the results tell of. Adding
usages in another grouping gives the same sums. -/
theorem usage_conserved {turns : List Turn} {deeds : List Deed} {account : Account}
    (reached : account = (opened turns).afterAll deeds) (regular : ∀ sending, .sent sending ∈ deeds → sending.Regular)
    (natural : ∀ usage ∈ account.dialogue.tally.calls, 0 ≤ usage.tokens) :
    account.dialogue.tally.tokens = (account.dialogue.tally.calls.map Usage.tokens).sum ∧
    account.dialogue.tally.tokens = (account.results.map fun result => result.usage.tokens).sum ∧
    account.dialogue.tally.calls.length = (account.results.map Result.calls).sum ∧
    account.dialogue.tally.counted = (account.results.filter fun result => result.call.isSome).length ∧
    (∀ sending, (sending.assistant.send account.dialogue sending.content sending.network).committed = none →
      (account.after (.sent sending)).dialogue.tally = account.dialogue.tally) ∧
    (∀ usages sum, Usage.Sums usages sum → (∀ usage ∈ usages, usage.IsFilled ∧ 0 ≤ usage.tokens) →
      sum.tokens = (usages.map Usage.tokens).sum) ∧
    ∀ vendor : Vendor, vendor.adapter.Fills := by
  have balanced : account.Balanced := reached ▸ (balanced_opened turns).afterAll regular
  refine ⟨balanced.recorded, balanced.told natural, balanced.calls, balanced.functions,
    fun sending => tally_of_uncommitted, fun usages sum sums sound => ?_, Vendor.fills⟩
  exact (sums.tokens (fun usage held => (sound usage held).1) fun usage held => (sound usage held).2).2

end Account

def Sending.echoing : Sending where
  assistant := .plain .gpt (.only .echo)
  content := .text "Say hi"
  network := .answering [Vendor.Chat.spending 3 4 (Vendor.Chat.calling "echo" (.list ["hi"])),
    Vendor.Chat.spending 5 6 (Vendor.Chat.saying [("content", "It said hi.")])]

namespace Account

theorem echoes_conserved :
    let account := (opened []).afterAll [.sent .echoing, .reset, .sent .echoing]
    account.dialogue.tally.tokens = (8, 10, 18) ∧
      (account.results.map fun result => result.usage.tokens).sum = (8, 10, 18) ∧
      (account.results.map Result.calls).sum = 2 ∧
      (account.results.filter fun result => result.call.isSome).length = 1 := by
  intro account
  have tally : (account.dialogue.tally.calls.map Usage.tokens, account.dialogue.tally.counted) =
      ([(3, 4, 7), (5, 6, 11)], 1) := by decide +kernel
  obtain ⟨tokens, counted⟩ := Prod.mk.inj tally
  have regular : Sending.echoing.Regular := ⟨Vendor.fills .gpt, by decide⟩
  have natural : ∀ usage ∈ account.dialogue.tally.calls, 0 ≤ usage.tokens := by
    intro usage held
    have told := tokens ▸ List.mem_map_of_mem held
    have all : ∀ counts ∈ [((3, 4, 7) : Int × Int × Int), (5, 6, 11)], 0 ≤ counts := by decide
    exact all _ told
  obtain ⟨recorded, results, calls, functions, _⟩ := @usage_conserved [] _ account rfl (by simp [regular]) natural
  have length : account.dialogue.tally.calls.length = 2 := by simpa using congrArg List.length tokens
  rw [tokens] at recorded
  exact ⟨recorded, results ▸ recorded, calls ▸ length, functions ▸ counted⟩

end Account

end Parley

