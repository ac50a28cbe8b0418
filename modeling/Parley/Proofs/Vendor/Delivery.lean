import Parley.Proofs.Vendor.Counting

namespace Parley.Vendor

/-- What arrives is neither read nor reported: it is nested too deeply, or it is an answer with an infinite number to count.
Or its time is out of the range of floats, which fails in the clock of the script alone. -/
inductive Loses (vendor : Vendor) : Arrival → Failure → Prop where
  | untimed {arrival : Arrival} (endless : arrival.elapsed.hasFloat = false) : Loses vendor arrival .beyondFloats
  | nested {status : Int} {text reason : String} {elapsed : Number} (timed : elapsed.hasFloat = true)
      (deep : Json.readList text.toList = .error .tooDeep) :
      Loses vendor ⟨.answer status text reason, elapsed⟩ Json.Defect.tooDeep.failure
  | uncounted {status : Int} {text reason : String} {elapsed : Number} {body : Json}
      (timed : elapsed.hasFloat = true) (read : Json.readList text.toList = .ok body)
      (silent : bodyMessage? body = none) (fine : status < 400) (endless : vendor.Uncountable body) :
      Loses vendor ⟨.answer status text reason, elapsed⟩ infinite

theorem isDelivery_unreadable (status : Int) (text reason : String) :
    (Network.unreadable status text reason).isDelivery = true := by
  unfold Network.unreadable
  split <;> rfl

theorem received_lost_iff {post : Post} {delivery : Delivery} {failure : Failure} :
    Network.received post delivery = .error failure ∧ failure.isDelivery = false ↔
      ∃ status text reason, delivery = .answer status text reason ∧ Json.readList text.toList = .error .tooDeep ∧
        failure = Json.Defect.tooDeep.failure := by
  constructor
  · intro holds
    obtain ⟨failed, other⟩ := holds
    cases delivery with
    | answer status text reason =>
      unfold Network.received at failed
      dsimp only at failed
      split at failed
      next => cases failed
      next deep => exact ⟨status, text, reason, rfl, deep, (Except.error.inj failed).symm⟩
      next =>
        rw [← Except.error.inj failed, isDelivery_unreadable] at other
        cases other
    | timedOut | unreachable | broken =>
      obtain rfl := Except.error.inj failed
      cases other
  · intro holds
    obtain ⟨status, text, reason, rfl, deep, rfl⟩ := holds
    exact ⟨by simp only [Network.received, deep], rfl⟩

theorem received_eq_ok {post : Post} {delivery : Delivery} {status : Int} {body : Json} :
    Network.received post delivery = .ok (status, body) ↔
      ∃ text reason, delivery = .answer status text reason ∧ Json.readList text.toList = .ok body := by
  constructor
  · intro received
    cases delivery with
    | answer code text reason =>
      unfold Network.received at received
      dsimp only at received
      split at received
      next read =>
        obtain ⟨rfl, rfl⟩ := Prod.mk.inj (Except.ok.inj received)
        exact ⟨text, reason, rfl, read⟩
      next => cases received
      next => cases received
    | timedOut | unreachable | broken => cases received
  · intro holds
    obtain ⟨text, reason, rfl, read⟩ := holds
    simp only [Network.received, read]

namespace Provider

theorem attributed_lost_iff {provider : String} {failure other : Failure} :
    attributed provider failure = other ∧ other.isDelivery = false ↔ failure = other ∧ failure.isDelivery = false := by
  cases failure with
  | transport text status owner =>
    refine ⟨?_, ?_⟩
    · intro holds
      obtain ⟨rfl, not⟩ := holds
      cases not
    · intro holds
      obtain ⟨_, not⟩ := holds
      cases not
  | malformed owner text =>
    refine ⟨?_, ?_⟩
    · intro holds
      obtain ⟨rfl, not⟩ := holds
      cases not
    · intro holds
      obtain ⟨_, not⟩ := holds
      cases not
  | _ =>
    refine and_congr_right ?_
    intro same
    obtain rfl := same
    rfl

theorem accepted_cases (provider : String) (status : Int) (body : Json) :
    (bodyMessage? body = none ∧ status < 400 ∧ accepted provider status body = .ok body) ∨
    (¬(bodyMessage? body = none ∧ status < 400) ∧
      ∃ failure, accepted provider status body = .error failure ∧ failure.isDelivery = true) := by
  unfold accepted
  cases told : bodyMessage? body with
  | some message => exact .inr ⟨by simp, _, rfl, rfl⟩
  | none =>
    by_cases refused : 400 ≤ status
    · exact .inr ⟨by omega, _, by simp only [refused, if_true]; rfl, rfl⟩
    · exact .inl ⟨rfl, by omega, by simp only [refused, if_false]⟩

theorem shapeFailure_unread {provider : String} {failure : Failure} (unread : IsUnread failure) :
    (shapeFailure provider failure).isDelivery = false ↔ failure = infinite := by
  obtain ⟨owner, text, rfl⟩ | rfl := unread
  · simp [shapeFailure, Failure.isDelivery, infinite]
  · simp [shapeFailure, Failure.isDelivery, infinite]

section

variable {provider : Provider} {request : Request} {network : Network}

theorem send_untimed (endless : network.arrival.elapsed.hasFloat = false) :
    (provider.send request network).1 = .error .beyondFloats := by
  simp only [send, Network.post, endless, Bool.false_eq_true, if_false]
  rfl

theorem send_timed (timed : network.arrival.elapsed.hasFloat = true) :
    (provider.send request network).1 =
      match Network.received ⟨request.url, request.headers, .object request.body, provider.timeout⟩
        network.arrival.delivery with
      | .error failure => .error (attributed provider.adapter.name failure)
      | .ok (status, body) => accepted provider.adapter.name status body := by
  simp only [send, Network.post, timed, if_true]
  obtain failure | ⟨status, body⟩ := Network.received
    ⟨request.url, request.headers, .object request.body, provider.timeout⟩ network.arrival.delivery
  · rfl
  · rfl

theorem send_eq_ok {body : Json} :
    (provider.send request network).1 = .ok body ↔
      network.arrival.elapsed.hasFloat = true ∧ ∃ status text reason,
        network.arrival.delivery = .answer status text reason ∧ Json.readList text.toList = .ok body ∧
        bodyMessage? body = none ∧ status < 400 := by
  cases timed : network.arrival.elapsed.hasFloat with
  | false => simp [send_untimed timed]
  | true =>
    rw [send_timed timed]
    simp only [true_and]
    constructor
    · intro sent
      split at sent
      next => cases sent
      next status read received =>
        obtain ⟨text, reason, arrived, spelt⟩ := received_eq_ok.1 received
        obtain ⟨silent, fine, same⟩ | ⟨_, failure, failed, _⟩ := accepted_cases provider.adapter.name status read
        · obtain rfl := Except.ok.inj (same.symm.trans sent)
          exact ⟨status, text, reason, arrived, spelt, silent, fine⟩
        · cases failed.symm.trans sent
    · intro holds
      obtain ⟨status, text, reason, arrived, spelt, silent, fine⟩ := holds
      rw [received_eq_ok.2 ⟨text, reason, arrived, spelt⟩]
      obtain ⟨_, _, same⟩ | ⟨never, _⟩ := accepted_cases provider.adapter.name status body
      · exact same
      · exact absurd ⟨silent, fine⟩ never

theorem send_lost_iff {failure : Failure} :
    (provider.send request network).1 = .error failure ∧ failure.isDelivery = false ↔
      (network.arrival.elapsed.hasFloat = false ∧ failure = .beyondFloats) ∨
      (network.arrival.elapsed.hasFloat = true ∧ ∃ status text reason,
        network.arrival.delivery = .answer status text reason ∧ Json.readList text.toList = .error .tooDeep ∧
        failure = Json.Defect.tooDeep.failure) := by
  cases timed : network.arrival.elapsed.hasFloat with
  | false =>
    rw [send_untimed timed]
    simp only [Except.error.injEq, true_and, Bool.false_eq_true, false_and, or_false]
    refine ⟨fun ⟨same, _⟩ => same.symm, ?_⟩
    intro same
    obtain rfl := same
    exact ⟨rfl, rfl⟩
  | true =>
    rw [send_timed timed]
    simp only [Bool.true_eq_false, false_and, false_or, true_and]
    rw [← received_lost_iff]
    split
    next cause received =>
      rw [received]
      simp only [Except.error.injEq]
      exact attributed_lost_iff.trans (and_congr_right fun same => by rw [same])
    next status body received =>
      rw [received]
      constructor
      · intro holds
        obtain ⟨failed, other⟩ := holds
        obtain ⟨_, _, same⟩ | ⟨_, cause, same, delivery⟩ := accepted_cases provider.adapter.name status body
        · cases same.symm.trans failed
        · obtain rfl := Except.error.inj (same.symm.trans failed)
          rw [delivery] at other
          cases other
      · intro holds
        obtain ⟨⟨⟩, _⟩ := holds

end

theorem ask_eq (provider : Provider) (question : Question) (network : Network) :
    ∃ elapsed, (provider.ask question network).1 =
      (provider.send (provider.adapter.request provider.settings question) network).1 >>= fun body =>
        (provider.adapter.reply provider.settings elapsed body).mapError (shapeFailure provider.adapter.name) := by
  unfold ask
  obtain ⟨failure | body, later⟩ := provider.send (provider.adapter.request provider.settings question) network
  · exact ⟨.float 0.0, rfl⟩
  · exact ⟨_, rfl⟩

/-- The failures of asking one of the vendors that are not failures of delivery, whatever is asked. -/
theorem ask_loses_iff {provider : Provider} {vendor : Vendor} (speaks : provider.adapter = vendor.adapter)
    (question : Question) (network : Network) (failure : Failure) :
    (provider.ask question network).1 = .error failure ∧ failure.isDelivery = false ↔
      vendor.Loses network.arrival failure := by
  obtain ⟨elapsed, asked⟩ := provider.ask_eq question network
  rw [asked, bind_eq_error]
  generalize provider.adapter.request provider.settings question = request
  constructor
  · intro either
    obtain ⟨failed | ⟨body, sent, failed⟩, other⟩ := either
    · obtain ⟨endless, rfl⟩ | ⟨timed, status, text, reason, arrived, deep, rfl⟩ := send_lost_iff.1 ⟨failed, other⟩
      · exact .untimed endless
      · have whole : network.arrival = ⟨.answer status text reason, network.arrival.elapsed⟩ := by rw [← arrived]
        rw [whole]
        exact .nested timed deep
    · obtain ⟨timed, status, text, reason, arrived, read, silent, fine⟩ := send_eq_ok.1 sent
      have whole : network.arrival = ⟨.answer status text reason, network.arrival.elapsed⟩ := by rw [← arrived]
      obtain ⟨cause, unread, rfl⟩ := mapError_eq_error.1 failed
      rw [speaks] at unread
      have counted := (shapeFailure_unread (vendor.reply_unread _ _ _ cause unread)).1 other
      rw [counted] at unread ⊢
      rw [whole]
      exact .uncounted timed read silent fine (vendor.reply_eq_infinite.1 unread)
  · intro loses
    generalize arrived : network.arrival = arrival at loses
    cases loses with
    | untimed endless =>
      have lost : (provider.send request network).1 = _ ∧ _ := send_lost_iff.2 (.inl ⟨by rw [arrived]; exact endless, rfl⟩)
      exact ⟨.inl lost.1, lost.2⟩
    | nested timed deep =>
      have lost : (provider.send request network).1 = _ ∧ _ :=
        send_lost_iff.2 (.inr ⟨by rw [arrived]; exact timed, _, _, _, by rw [arrived], deep, rfl⟩)
      exact ⟨.inl lost.1, lost.2⟩
    | uncounted timed read silent fine endless =>
      have sent : (provider.send request network).1 = _ :=
        send_eq_ok.2 ⟨by rw [arrived]; exact timed, _, _, _, by rw [arrived], read, silent, fine⟩
      refine ⟨.inr ⟨_, sent, mapError_eq_error.2 ⟨infinite, ?_, rfl⟩⟩, rfl⟩
      rw [speaks]
      exact vendor.reply_eq_infinite.2 endless

end Provider

end Parley.Vendor

