import Parley.Proofs.Json.Depth
import Parley.Proofs.Vendor.Complaining
import Parley.Proofs.Vendor.Utterance

namespace Parley

/-- What the network brings next is an answer with a status and some text for its body. -/
structure Network.Transmits (network : Network) (status : Int) (text : String) : Prop where
  timed : network.arrival.elapsed.hasFloat = true
  answers : ∃ reason, network.arrival.delivery = .answer status text reason

def Network.showing (status : Int) (text : String) : Network where
  script := [⟨.answer status text "", .int 0⟩]

theorem Network.transmits_showing (status : Int) (text : String) : (showing status text).Transmits status text where
  timed := by
    change (Number.int 0).hasFloat = true
    decide +kernel
  answers := ⟨"", rfl⟩

namespace Vendor

/-- An object that gives no message: its error is empty, or an object without a message and a type, and there is no message
beside it. -/
structure Wordless (fields : Fields) : Prop where
  error : (Json.field "error" fields).isTruthy = false ∨ ∃ error, Json.field "error" fields = .object error ∧
    (Json.field "message" error).isTruthy = false ∧ (Json.field "type" error).isTruthy = false
  message : (Json.field "message" fields).isTruthy = false

/-- What is shown of an object that gives no message: an error that is not empty, or all of an object that is marked as an
error. -/
def shown? (fields : Fields) : Option Fields :=
  match Json.field "error" fields with
  | .object error => if error.isEmpty && !isMarked fields then none else some error
  | _ => if isMarked fields then some fields else none

def shownText? (fields : Fields) : Option String := (shown? fields).map fun shown => (Json.object shown).literal

section

variable {fields error : Fields}

theorem shown?_of_object (held : Json.field "error" fields = .object error) :
    shown? fields = if error.isEmpty && !isMarked fields then none else some error := by
  rw [shown?, held]

theorem shown?_of_flat (flat : ∀ error, Json.field "error" fields ≠ .object error) :
    shown? fields = if isMarked fields then some fields else none := by
  unfold shown?
  split
  next error held => exact absurd held (flat error)
  next => rfl

theorem shown?_eq_none_iff : shown? fields = none ↔
    isMarked fields = false ∧ ∀ error, Json.field "error" fields = .object error → error = [] := by
  by_cases structured : ∃ error, Json.field "error" fields = .object error
  · obtain ⟨error, held⟩ := structured
    rw [shown?_of_object held, held]
    cases error <;> cases isMarked fields <;> simp
  · have flat : ∀ error, Json.field "error" fields ≠ .object error := fun error held => structured ⟨error, held⟩
    rw [shown?_of_flat flat]
    cases isMarked fields with
    | true => simp
    | false => exact iff_of_true rfl ⟨rfl, fun error held => absurd held (flat error)⟩

theorem orElse_of_falsy {value : Json} (falsy : value.isTruthy = false) (other : Json) : value.orElse other = other := by
  rw [Json.orElse, falsy]
  exact if_neg Bool.false_ne_true

theorem Wordless.objectMessage_eq (wordless : Wordless fields) (held : Json.field "error" fields = .object error) :
    objectMessage error = (Json.object error).literal := by
  have blank : (Json.field "message" error).isTruthy = false ∧ (Json.field "type" error).isTruthy = false := by
    obtain falsy | ⟨other, same, message, type⟩ := wordless.error
    · rw [held] at falsy
      obtain rfl : error = [] := by simpa [Json.isTruthy] using falsy
      exact ⟨rfl, rfl⟩
    · obtain rfl := Json.object.inj (held.symm.trans same)
      exact ⟨message, type⟩
  rw [objectMessage, firstTruthy, orElse_of_falsy blank.1, orElse_of_falsy blank.2]
  rfl

/-- An object that gives no message is an error exactly if something is shown of it, which then is its message. -/
theorem Wordless.bodyMessage?_eq (wordless : Wordless fields) : bodyMessage? (.object fields) = shownText? fields := by
  rw [shownText?]
  by_cases structured : ∃ error, Json.field "error" fields = .object error
  · obtain ⟨error, held⟩ := structured
    rw [shown?_of_object held]
    by_cases said : error ≠ [] ∨ isMarked fields = true
    · have shows : (error.isEmpty && !isMarked fields) = false := by
        obtain nonempty | marked := said
        · rw [List.isEmpty_eq_false_iff.2 nonempty, Bool.false_and]
        · rw [marked, Bool.not_true, Bool.and_false]
      rw [bodyMessage?_of_object held said, wordless.objectMessage_eq held, shows]
      rfl
    · obtain ⟨rfl, unmarked⟩ : error = [] ∧ isMarked fields = false := by simpa using said
      rw [bodyMessage?_of_falsy (by rw [held]; rfl), unmarked]
      rfl
  · have flat : ∀ error, Json.field "error" fields ≠ .object error := fun error held => structured ⟨error, held⟩
    have falsy : (Json.field "error" fields).isTruthy = false := by
      obtain falsy | ⟨error, held, _⟩ := wordless.error
      · exact falsy
      · exact absurd held (flat error)
    rw [shown?_of_flat flat]
    cases marked : isMarked fields with
    | false =>
      rw [bodyMessage?_of_falsy falsy, marked]
      rfl
    | true =>
      rw [bodyMessage?_of_marked falsy flat marked, markedMessage, orElse_of_falsy wordless.message]
      rfl

/-- What is shown of a body is never taken for the phrase that tells nothing of it. -/
theorem shownText?_ne_unexplained : shownText? fields ≠ some unexplained := by
  intro same
  obtain ⟨shown, _, text⟩ := Option.map_eq_some_iff.1 same
  have chars := congrArg String.toList text
  simp [Json.literal, unexplained] at chars

end

namespace Provider

variable (provider : Provider) {network : Network} {status : Int}

/-- A body that gives no message is reported by what is shown of it, or else by a fixed phrase. -/
theorem ask_of_wordless {fields : Fields} (wordless : Wordless fields) (refused : 400 ≤ status)
    (yields : network.Yields status (.object fields)) (question : Question) :
    (provider.ask question network).1 =
      .error (.transport ((shownText? fields).getD unexplained) (some status) provider.adapter.name) := by
  obtain ⟨elapsed, asked⟩ := ask_of_yields yields
  rw [asked, accepted_eq, if_neg fun fine => absurd fine.1 (by omega), wordless.bodyMessage?_eq]
  rfl

end Provider

theorem getD_shownText?_inj {first second : Fields} :
    (shownText? first).getD unexplained = (shownText? second).getD unexplained ↔ shownText? first = shownText? second := by
  refine ⟨fun same => ?_, fun same => by rw [same]⟩
  cases left : shownText? first with
  | none =>
    cases right : shownText? second with
    | none => rfl
    | some text =>
      rw [left, right] at same
      obtain rfl : unexplained = text := same
      exact absurd right shownText?_ne_unexplained
  | some text =>
    cases right : shownText? second with
    | none =>
      rw [left, right] at same
      obtain rfl : text = unexplained := same
      exact absurd left shownText?_ne_unexplained
    | some other =>
      rw [left, right] at same
      exact congrArg some same

/-- Two bodies that give no message are reported alike, with the status and the provider's name, exactly if the same is
shown of both; and nothing is shown exactly of those that are not marked as an error and whose error is no object with
fields. -/
theorem wordless_alike_iff (provider : Provider) {status : Int} (refused : 400 ≤ status) {first second : Fields}
    (wordless : Wordless first) (wordlessToo : Wordless second) {network other : Network}
    (yields : network.Yields status (.object first)) (yieldsToo : other.Yields status (.object second))
    (question again : Question) :
    (provider.ask question network).1 =
        .error (.transport ((shownText? first).getD unexplained) (some status) provider.adapter.name) ∧
      ((provider.ask question network).1 = (provider.ask again other).1 ↔ shownText? first = shownText? second) ∧
      (shownText? first = none ↔ Json.field "type" first ≠ .text "error" ∧
        ∀ error, Json.field "error" first = .object error → error = []) := by
  have reported := provider.ask_of_wordless wordless refused yields question
  have reportedToo := provider.ask_of_wordless wordlessToo refused yieldsToo again
  refine ⟨reported, ?_, ?_⟩
  · rw [reported, reportedToo, Except.error.injEq, Failure.transport.injEq, getD_shownText?_inj]
    exact and_iff_left ⟨rfl, rfl⟩
  · rw [shownText?, Option.map_eq_none_iff, shown?_eq_none_iff, ← Bool.not_eq_true, isMarked_iff]

def traced : Fields := [("error", .object [("trace", "line 7")])]

theorem wordless_nil : Wordless [] := ⟨.inl rfl, rfl⟩

theorem wordless_traced : Wordless traced := ⟨.inr ⟨_, rfl, rfl, rfl⟩, rfl⟩

theorem placed_reported_alike :
    (400 : Int) ≤ 502 ∧ Wordless [] ∧ Wordless [("trace", "line 7")] ∧
      (Gemini.provider.ask { turns := [] } (.sending 502 (.object []))).1 =
        (Gemini.provider.ask { turns := [] } (.sending 502 (.object [("trace", "line 7")]))).1 := by
  have wordless : Wordless [("trace", "line 7")] := ⟨.inl rfl, rfl⟩
  have alike := wordless_alike_iff Gemini.provider (by decide : (400 : Int) ≤ 502) wordless_nil wordless
    (Network.yields_sending 502 (by decide)) (Network.yields_sending 502 (by decide)) { turns := [] } { turns := [] }
  exact ⟨by decide, wordless_nil, wordless, alike.2.1.2 rfl⟩

/-- An error without a message is shown with all that it holds. -/
theorem trace_disclosed :
    Wordless [] ∧ Wordless traced ∧
      (Gemini.provider.ask { turns := [] } (.sending 502 (.object []))).1 =
        .error (.transport unexplained (some 502) Gemini.name) ∧
      (Gemini.provider.ask { turns := [] } (.sending 502 (.object traced))).1 =
        .error (.transport "\x7b'trace': 'line 7'\x7d" (some 502) Gemini.name) := by
  refine ⟨wordless_nil, wordless_traced, ?_, ?_⟩
  · exact Gemini.provider.ask_of_wordless wordless_nil (by decide) (Network.yields_sending 502 (by decide)) _
  · have shows : shownText? traced = some "\x7b'trace': 'line 7'\x7d" := by decide +kernel
    rw [Gemini.provider.ask_of_wordless wordless_traced (by decide) (Network.yields_sending 502 (by decide)), shows]
    rfl

def statusLabel (status : Int) : String := "HTTP " ++ Text.intText status ++ ": "

def lead (provider : String) (status : Int) : String :=
  (if provider.isEmpty then "" else s!"[{provider}] ") ++ statusLabel status

theorem detail_transport (text : String) (status : Int) (provider : String) :
    (Failure.transport text (some status) provider).detail = lead provider status ++ text := rfl

theorem message_transport (text : String) (status : Int) (provider : String) :
    (Failure.transport text (some status) provider).message = "Transport Error: " ++ (lead provider status ++ text) := by
  have own : (Failure.transport text (some status) provider).isOwn = true := rfl
  rw [Failure.message, detail_transport, Failure.framed, if_pos own]
  exact String.append_empty

theorem attributed_transport (provider text : String) (status : Int) :
    Provider.attributed provider (.transport text (some status) "") =
      .transport (statusLabel status ++ text) (some status) provider := by
  have unnamed : lead "" status = statusLabel status := String.empty_append
  rw [Provider.attributed, detail_transport, unnamed]

theorem append_statusLabel_ne (start text : String) (status : Int) :
    start ++ (statusLabel status ++ text) ≠ start ++ text := by
  intro same
  have lengths := congrArg String.length same
  have label : 0 < (statusLabel status).length := by
    have word : "HTTP ".length = 5 := rfl
    rw [statusLabel, String.length_append, String.length_append, word]
    omega
  rw [String.length_append, String.length_append, String.length_append] at lengths
  omega

namespace Provider

variable (provider : Provider) {network : Network} {status : Int} {text : String}

/-- A text that is no JSON is reported as it stands, under a status that the text has been given already. -/
theorem ask_of_transmits (transmits : network.Transmits status text) (refused : 400 ≤ status) (nonempty : text ≠ "")
    (short : text.length ≤ 500) (unreadable : ∀ value, Json.readList text.toList ≠ .ok value) (question : Question) :
    (provider.ask question network).1 =
      .error (.transport (statusLabel status ++ text) (some status) provider.adapter.name) := by
  obtain ⟨reason, arrived⟩ := transmits.answers
  have whole : Network.firstChars 500 text = text := by
    rw [Network.firstChars, List.take_of_length_le (by rw [String.length_toList]; exact short), String.ofList_toList]
  have told : Network.unreadable status text reason = .transport text (some status) "" := by
    simp [Network.unreadable, refused, nonempty, whole]
  have received (post : Post) : Network.received post network.arrival.delivery =
      .error (.transport text (some status) "") := by
    rw [arrived, Network.received]
    cases read : Json.readList text.toList with
    | ok value => exact absurd read (unreadable value)
    | error defect =>
      cases defect with
      | tooDeep =>
        -- So short a text has not the room for containers so deep.
        have long := Json.depthLimit_le_of_readList read
        rw [String.length_toList] at long
        have limit : Json.depthLimit = 990 := rfl
        omega
      | malformed => exact congrArg Except.error told
      | oversized digits => exact congrArg Except.error told
  obtain ⟨elapsed, asked⟩ := provider.ask_eq question network
  rw [asked, send_timed transmits.timed, received, ← attributed_transport]
  rfl

theorem ask_of_error (nonempty : text ≠ "")
    (yields : network.Yields status (.object [("error", .text text)])) (question : Question) :
    (provider.ask question network).1 = .error (.transport text (some status) provider.adapter.name) := by
  have complains : bodyMessage? (.object [("error", .text text)]) = some text := by
    refine bodyMessage?_of_plain (isTruthy_text nonempty) ?_ ?_
    · intro _ same
      cases same
    · intro _ same
      cases same
  obtain ⟨elapsed, asked⟩ := ask_of_yields yields
  rw [asked, accepted_of_complaint complains]
  rfl

end Provider

/-- An error text is reported with the same status and the same name whether it comes as it stands or as the error of an
object; but as it stands its status goes before it twice, so that detail and message are never the same. -/
theorem plain_text_labelled_twice (provider : Provider) {status : Int} (refused : 400 ≤ status) {text : String}
    (nonempty : text ≠ "") (short : text.length ≤ 500) (unreadable : ∀ value, Json.readList text.toList ≠ .ok value)
    {network other : Network} (transmits : network.Transmits status text)
    (yields : other.Yields status (.object [("error", .text text)])) (question again : Question) :
    ∃ plain told : Failure,
      plain = .transport (statusLabel status ++ text) (some status) provider.adapter.name ∧
      told = .transport text (some status) provider.adapter.name ∧
      (provider.ask question network).1 = .error plain ∧ (provider.ask again other).1 = .error told ∧
      plain.detail = lead provider.adapter.name status ++ (statusLabel status ++ text) ∧
      told.detail = lead provider.adapter.name status ++ text ∧
      plain.detail ≠ told.detail ∧ plain.message ≠ told.message := by
  refine ⟨_, _, rfl, rfl, provider.ask_of_transmits transmits refused nonempty short unreadable question,
    provider.ask_of_error nonempty yields again, rfl, rfl, append_statusLabel_ne _ text status, ?_⟩
  have differ := append_statusLabel_ne ("Transport Error: " ++ lead provider.adapter.name status) text status
  rw [String.append_assoc, String.append_assoc] at differ
  rw [message_transport, message_transport]
  exact differ

def badGateway : String := "Bad Gateway"

theorem badGateway_unreadable (value : Json) : Json.readList badGateway.toList ≠ .ok value := by
  have defective : (Json.readList badGateway.toList).toOption = none := by decide +kernel
  intro read
  rw [read] at defective
  cases defective

theorem badGateway_labelled_twice :
    (400 : Int) ≤ 502 ∧ badGateway ≠ "" ∧ badGateway.length ≤ 500 ∧ (∀ value, Json.readList badGateway.toList ≠ .ok value) ∧
      (Network.showing 502 badGateway).Transmits 502 badGateway ∧
      (Network.sending 502 (.object [("error", badGateway)])).Yields 502 (.object [("error", badGateway)]) ∧
      ∃ plain told : Failure,
        (Gemini.provider.ask { turns := [] } (.showing 502 badGateway)).1 = .error plain ∧
        (Gemini.provider.ask { turns := [] } (.sending 502 (.object [("error", badGateway)]))).1 = .error told ∧
        plain.detail ≠ told.detail := by
  have yields : (Network.sending 502 (.object [("error", badGateway)])).Yields 502 (.object [("error", badGateway)]) :=
    Network.yields_sending 502 (by decide)
  obtain ⟨plain, told, -, -, first, second, -, -, differ, -⟩ := plain_text_labelled_twice Gemini.provider (by decide)
    (by decide) (by decide) badGateway_unreadable (Network.transmits_showing 502 badGateway) yields { turns := [] }
    { turns := [] }
  exact ⟨by decide, by decide, by decide, badGateway_unreadable, Network.transmits_showing 502 badGateway, yields, plain,
    told, first, second, differ⟩

/-- The two messages of one error text. -/
theorem badGateway_reported_otherwise :
    ∃ plain told : Failure,
      (Gemini.provider.ask { turns := [] } (.showing 502 badGateway)).1 = .error plain ∧
      (Gemini.provider.ask { turns := [] } (.sending 502 (.object [("error", badGateway)]))).1 = .error told ∧
      plain.message = "Transport Error: [gemini] HTTP 502: HTTP 502: Bad Gateway" ∧
      told.message = "Transport Error: [gemini] HTTP 502: Bad Gateway" := by
  refine ⟨_, _, Gemini.provider.ask_of_transmits (Network.transmits_showing 502 badGateway) (by decide) (by decide) (by decide)
    badGateway_unreadable _, Gemini.provider.ask_of_error (by decide) (Network.yields_sending 502 (by decide)) _, ?_, ?_⟩
  · decide +kernel
  · decide +kernel

end Vendor

end Parley

