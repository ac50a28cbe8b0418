import Parley.Proofs.Exchange.Billing
import Parley.Proofs.Vendor.Tokens

namespace Parley

namespace Tally

/-- What a tally gains by some more calls to vendors. -/
structure Grows (before after : Tally) (added : List Usage) : Prop where
  calls : after.calls = before.calls ++ added
  tokens : after.tokens = before.tokens + (added.map Usage.tokens).sum
  counts : ∀ name, before.count name ≤ after.count name

theorem Grows.refl (tally : Tally) : tally.Grows tally [] where
  calls := (List.append_nil _).symm
  tokens := (add_zero _).symm
  counts _ := le_rfl

theorem Grows.trans {first second third : Tally} {added more : List Usage} (early : first.Grows second added)
    (late : second.Grows third more) : first.Grows third (added ++ more) where
  calls := by rw [late.calls, early.calls, List.append_assoc]
  tokens := by rw [late.tokens, early.tokens, List.map_append, List.sum_append, add_assoc]
  counts name := (early.counts name).trans (late.counts name)

theorem Grows.recordAll (tally : Tally) (charges : List (Usage × Option String)) :
    tally.Grows (tally.recordAll charges) (charges.map Prod.fst) where
  calls := tally.calls_recordAll charges
  tokens := by
    rw [tally.tokens_recordAll, List.map_map]
    rfl
  counts := tally.count_recordAll charges

theorem Grows.tokens_le_iff {before after : Tally} {added : List Usage} (grows : before.Grows after added) :
    before.tokens ≤ after.tokens ↔ 0 ≤ (added.map Usage.tokens).sum := by
  rw [grows.tokens]
  exact le_add_iff_nonneg_right _

end Tally

namespace Dialogue

/-- While some texts are sent one after the other, an assistant that speaks to a vendor gets a reply. -/
def Meets (dialogue : Dialogue) (sendings : List Sending) (vendor : Vendor) (reply : Reply) : Prop :=
  ∃ earlier sending later runs, sendings = earlier ++ sending :: later ∧
    sending.assistant.provider.adapter = vendor.adapter ∧
    sending.assistant.Gets (dialogue.afterAll (earlier.map .sent)) sending.content sending.network reply runs

theorem Meets.later {dialogue : Dialogue} {sending : Sending} {rest : List Sending} {vendor : Vendor} {reply : Reply}
    (meets : (dialogue.after (.sent sending)).Meets rest vendor reply) :
    dialogue.Meets (sending :: rest) vendor reply := by
  obtain ⟨earlier, other, later, runs, rfl, speaks, gets⟩ := meets
  exact ⟨sending :: earlier, other, later, runs, rfl, speaks, gets⟩

theorem grows_sent (dialogue : Dialogue) {sending : Sending} {vendor : Vendor} (rest : List Sending)
    (speaks : sending.assistant.provider.adapter = vendor.adapter) :
    ∃ added, dialogue.tally.Grows (dialogue.after (.sent sending)).tally added ∧
      ∀ usage ∈ added, ∃ reply, dialogue.Meets (sending :: rest) vendor reply ∧
        Vendor.Tells usage (vendor.counts reply.body) := by
  obtain ⟨charges, bills⟩ := sending.assistant.send_bills dialogue sending.content sending.network
  refine ⟨charges.map Prod.fst, ?_, fun usage held => ?_⟩
  · have recorded : (dialogue.after (.sent sending)).tally = dialogue.tally.recordAll charges := bills.recorded
    exact recorded ▸ Tally.Grows.recordAll _ _
  · obtain ⟨charge, member, rfl⟩ := List.mem_map.1 held
    obtain ⟨reply, runs, gets, same⟩ := bills.replies charge member
    have read : ∃ elapsed, vendor.adapter.reply sending.assistant.provider.settings elapsed reply.body = .ok reply := by
      cases gets with
      | first answered | second _ answered => exact Vendor.Provider.ask_eq_ok speaks (congrArg Prod.fst answered)
    obtain ⟨elapsed, read⟩ := read
    exact ⟨reply, ⟨[], sending, rest, runs, rfl, speaks, gets⟩, same ▸ Vendor.usage_tells read⟩

/-- Over a run of texts sent, a tally gains the usages that the vendors' bodies tell of. -/
theorem grows_allSent (dialogue : Dialogue) {sendings : List Sending}
    (speak : ∀ sending ∈ sendings, ∃ vendor : Vendor, sending.assistant.provider.adapter = vendor.adapter) :
    ∃ added, dialogue.tally.Grows (dialogue.afterAll (sendings.map .sent)).tally added ∧
      ∀ usage ∈ added, ∃ vendor reply, dialogue.Meets sendings vendor reply ∧
        Vendor.Tells usage (vendor.counts reply.body) := by
  induction sendings generalizing dialogue with
  | nil => exact ⟨[], .refl _, by simp⟩
  | cons sending rest ih =>
    obtain ⟨⟨vendor, speaks⟩, others⟩ := List.forall_mem_cons.1 speak
    obtain ⟨added, first, told⟩ := dialogue.grows_sent rest speaks
    obtain ⟨more, later, toldLater⟩ := ih (dialogue.after (.sent sending)) others
    refine ⟨added ++ more, first.trans later, List.forall_mem_append.2 ⟨fun usage held => ?_, fun usage held => ?_⟩⟩
    · obtain ⟨reply, meets, tells⟩ := told usage held
      exact ⟨vendor, reply, meets, tells⟩
    · obtain ⟨other, reply, meets, tells⟩ := toldLater usage held
      exact ⟨other, reply, meets.later, tells⟩

theorem tokens_nonneg_of_told {usage : Usage} {told : Except Failure (Int × Int × Int)} (tells : Vendor.Tells usage told)
    (natural : ∀ counts, told = .ok counts → 0 ≤ counts) : 0 ≤ usage.tokens := by
  obtain ⟨_, counts, same, tokens⟩ := tells
  exact tokens ▸ Usage.completed_nonneg_iff.2 (natural counts same)

/-- While texts are sent to whatever vendors, with no reset in between, the calls on record only become more, and so do the
calls of each function. The tokens grow by those of the added calls, each of which takes over what a vendor's body tells
of; they never fall as long as no body tells of fewer than none. -/
theorem counters_grow (dialogue : Dialogue) {sendings : List Sending}
    (speak : ∀ sending ∈ sendings, ∃ vendor : Vendor, sending.assistant.provider.adapter = vendor.adapter) :
    ∃ added, dialogue.tally.Grows (dialogue.afterAll (sendings.map .sent)).tally added ∧
      (∀ usage ∈ added, ∃ vendor reply, dialogue.Meets sendings vendor reply ∧
        Vendor.Tells usage (vendor.counts reply.body)) ∧
      (dialogue.tally.tokens ≤ (dialogue.afterAll (sendings.map .sent)).tally.tokens ↔
        0 ≤ (added.map Usage.tokens).sum) ∧
      ((∀ vendor reply counts, dialogue.Meets sendings vendor reply → vendor.counts reply.body = .ok counts →
          0 ≤ counts) →
        dialogue.tally.tokens ≤ (dialogue.afterAll (sendings.map .sent)).tally.tokens) := by
  obtain ⟨added, grows, told⟩ := dialogue.grows_allSent speak
  refine ⟨added, grows, told, grows.tokens_le_iff, fun natural => grows.tokens_le_iff.2 ?_⟩
  refine List.sum_nonneg fun tokens held => ?_
  obtain ⟨usage, member, rfl⟩ := List.mem_map.1 held
  obtain ⟨vendor, reply, meets, tells⟩ := told usage member
  exact tokens_nonneg_of_told tells fun counts same => natural vendor reply counts meets same

end Dialogue

def Sending.spending (prompt completion : Int) : Sending where
  assistant := .plain .gpt ⟨[], List.nodup_nil⟩
  content := .text "Say hi"
  network := .answering [Vendor.Chat.spending prompt completion (Vendor.Chat.saying [("content", "Hi.")])]

namespace Dialogue

theorem greeting_grows :
    ∃ added, ({} : Tally).Grows (({} : Dialogue).afterAll ([.spending 3 4].map .sent)).tally added ∧
      added.map Usage.tokens = [(3, 4, 7)] := by
  have tokens : (({} : Dialogue).afterAll ([.spending 3 4].map .sent)).tally.calls.map Usage.tokens = [(3, 4, 7)] := by
    decide +kernel
  obtain ⟨added, grows, _⟩ := @counters_grow {} [.spending 3 4] (by simpa using ⟨Vendor.gpt, rfl⟩)
  have calls : added = (({} : Dialogue).afterAll ([.spending 3 4].map .sent)).tally.calls := grows.calls.symm
  exact ⟨added, grows, calls ▸ tokens⟩

/-- A body that tells of fewer tokens than none makes the counters fall. -/
theorem negative_count_falls :
    (({} : Dialogue).after (.sent (.spending (-5) 4))).tally.tokens = (-5, 4, -1) ∧
    ¬({} : Dialogue).tally.tokens ≤ (({} : Dialogue).after (.sent (.spending (-5) 4))).tally.tokens := by
  have tokens : (({} : Dialogue).after (.sent (.spending (-5) 4))).tally.tokens = (-5, 4, -1) := by decide +kernel
  exact ⟨tokens, by rw [tokens]; decide⟩

end Dialogue

end Parley

