import Parley.Proofs.Vendor.Counting

namespace Parley.Vendor

theorem optionalText_eq_ok {provider what key : String} {fields : Fields} {text : String}
    (read : optionalText provider what key fields = .ok text) : looseText (Json.field key fields) = text := by
  unfold optionalText Json.orElse at read
  unfold looseText
  split at read
  next truthy =>
    cases value : Json.field key fields with
    | text other =>
      rw [value] at read truthy
      obtain rfl := Except.ok.inj read
      simp only [truthy, if_true]
      rfl
    | _ =>
      rw [value] at read
      cases read
  next falsy =>
    obtain rfl := Except.ok.inj read
    rw [if_neg falsy]

theorem looseText_text (text : String) : looseText (.text text) = text := by
  cases empty : text.isEmpty with
  | true => simp [looseText, Json.isTruthy, String.isEmpty_iff.1 empty]
  | false => simp [looseText, Json.isTruthy, Json.plain, empty]

theorem optionalList_eq_ok {provider what key : String} {fields : Fields} {items : List Json}
    (read : optionalList provider what key fields = .ok items) :
    Json.field key fields = .list items ∨ (items = [] ∧ (Json.field key fields).isTruthy = false) := by
  unfold optionalList Json.orElse at read
  split at read
  next =>
    cases held : Json.field key fields with
    | list others =>
      rw [held] at read
      exact .inl (congrArg Json.list (Except.ok.inj read))
    | _ =>
      rw [held] at read
      cases read
  next falsy => exact .inr ⟨(Except.ok.inj read).symm, Bool.eq_false_iff.2 falsy⟩

theorem optionalObject_eq_ok {provider what key : String} {fields object : Fields}
    (read : optionalObject provider what key fields = .ok object) :
    Json.field key fields = .object object ∨ (object = [] ∧ (Json.field key fields).isTruthy = false) := by
  unfold optionalObject Json.orElse at read
  split at read
  next =>
    cases held : Json.field key fields with
    | object others =>
      rw [held] at read
      exact .inl (congrArg Json.object (Except.ok.inj read))
    | _ =>
      rw [held] at read
      cases read
  next falsy => exact .inr ⟨(Except.ok.inj read).symm, Bool.eq_false_iff.2 falsy⟩

namespace Chat

def Stopped (dialect : Dialect) (body : Json) : Prop :=
  ∃ choice message, Chat.message dialect body = .ok (choice, message) ∧
    (Json.field "finish_reason" choice = .text "content_filter" ∨ (Json.field "refusal" message).isTruthy = true)

/-- The message does not refuse and calls a function. -/
def Masked (dialect : Dialect) (body : Json) : Prop :=
  ∃ choice message, Chat.message dialect body = .ok (choice, message) ∧
    (Json.field "refusal" message).isTruthy = false ∧ messageCalls message ≠ []

theorem reply_eq_ok {dialect : Dialect} {settings : Settings} {elapsed : Number} {body : Json} {reply : Reply}
    (read : Chat.reply dialect settings elapsed body = .ok reply) :
    reply.body = body ∧ ∃ choice message, Chat.message dialect body = .ok (choice, message) ∧
      reply.finish = finishOf dialect (Json.field "refusal" message).isTruthy (!(messageCalls message).isEmpty)
        (looseText (Json.field "finish_reason" choice)) := by
  unfold Chat.reply at read
  obtain ⟨⟨choice, message⟩, found, read⟩ := bind_eq_ok.1 read
  obtain ⟨word, worded, read⟩ := bind_eq_ok.1 read
  obtain ⟨text, _, read⟩ := bind_eq_ok.1 read
  obtain ⟨_, _, read⟩ := bind_eq_ok.1 read
  obtain ⟨usage, _, read⟩ := bind_eq_ok.1 read
  obtain rfl := Except.ok.inj read
  exact ⟨rfl, choice, message, found, by rw [optionalText_eq_ok worded]⟩

theorem isRejection_iff {dialect : Dialect} {settings : Settings} {elapsed : Number} {body : Json} {reply : Reply}
    (filters : dialect.finishes.lookup "content_filter" = some .safety)
    (read : Chat.reply dialect settings elapsed body = .ok reply) (stopped : Stopped dialect body) :
    reply.isRejection = true ↔ ¬Masked dialect body := by
  obtain ⟨_, choice, message, found, finish⟩ := reply_eq_ok read
  have masked : Masked dialect body ↔ (Json.field "refusal" message).isTruthy = false ∧ messageCalls message ≠ [] := by
    constructor
    · intro holds
      obtain ⟨_, _, same, holds⟩ := holds
      obtain ⟨rfl, rfl⟩ := Prod.mk.inj (Except.ok.inj (found.symm.trans same))
      exact holds
    · exact fun holds => ⟨choice, message, found, holds⟩
  obtain ⟨_, _, same, stops⟩ := stopped
  obtain ⟨rfl, rfl⟩ := Prod.mk.inj (Except.ok.inj (found.symm.trans same))
  rw [masked, Reply.isRejection, finish]
  cases refused : (Json.field "refusal" message).isTruthy with
  | true => simp [finishOf]
  | false =>
    cases calls : messageCalls message with
    | cons call others => simp [finishOf]
    | nil =>
      have filtered : Json.field "finish_reason" choice = .text "content_filter" :=
        stops.resolve_right (by simp [refused])
      rw [filtered, looseText_text]
      simp [finishOf, filters]

end Chat

namespace Claude

def Stopped (body : Json) : Prop :=
  ∃ fields, body = .object fields ∧ Json.field "stop_reason" fields = .text "refusal"

def Masked (body : Json) : Prop := calls body ≠ []

theorem reply_eq_ok {settings : Settings} {elapsed : Number} {body : Json} {reply : Reply}
    (read : Claude.reply settings elapsed body = .ok reply) :
    reply.body = body ∧ ∃ fields, body = .object fields ∧
      reply.finish = finishOf (!(calls body).isEmpty) (looseText (Json.field "stop_reason" fields)) := by
  unfold Claude.reply at read
  obtain ⟨⟨fields, items⟩, found, read⟩ := bind_eq_ok.1 read
  obtain ⟨objects, _, read⟩ := bind_eq_ok.1 read
  obtain ⟨word, worded, read⟩ := bind_eq_ok.1 read
  obtain ⟨texts, _, read⟩ := bind_eq_ok.1 read
  obtain ⟨_, _, read⟩ := bind_eq_ok.1 read
  obtain ⟨usage, _, read⟩ := bind_eq_ok.1 read
  obtain rfl := Except.ok.inj read
  exact ⟨rfl, fields, eq_object_of_blocks found, by rw [optionalText_eq_ok worded]⟩

theorem isRejection_iff {settings : Settings} {elapsed : Number} {body : Json} {reply : Reply}
    (read : Claude.reply settings elapsed body = .ok reply) (stopped : Stopped body) :
    reply.isRejection = true ↔ ¬Masked body := by
  obtain ⟨_, fields, rfl, finish⟩ := reply_eq_ok read
  obtain ⟨_, same, refused⟩ := stopped
  obtain rfl := Json.object.inj same
  rw [Masked, Reply.isRejection, finish, refused, looseText_text]
  cases calls (.object fields) with
  | cons call others => simp [finishOf]
  | nil => decide

end Claude

theorem signed_ne_empty {negative : Bool} {text : List Char} (filled : text ≠ []) :
    Decimal.signed negative text ≠ "" := by
  intro empty
  have chars := congrArg String.toList empty
  cases negative with
  | true => simp [Decimal.signed] at chars
  | false => exact filled (by simpa [Decimal.signed] using chars)

theorem positional_ne_nil (digits : List Char) (place : Int) : Decimal.positional digits place ≠ [] := by
  unfold Decimal.positional
  split
  · simp
  · split
    · simp
    · simp

theorem magnitude_ne_nil (style : Decimal.Style) (value : Float) (mantissa : Nat) (exponent : Int) :
    Decimal.magnitude style value mantissa exponent ≠ [] := by
  unfold Decimal.magnitude
  dsimp only
  split
  · exact positional_ne_nil _ _
  · simp [Decimal.withExponent]

theorem full_ne_empty {style : Decimal.Style} (infinity : style.infinity ≠ "") (undefined : style.undefined ≠ "")
    (x : Float) : Decimal.full style x ≠ "" := by
  unfold Decimal.full
  split
  · exact undefined
  · exact signed_ne_empty (by simpa using infinity)
  · exact signed_ne_empty (by simp)
  · exact signed_ne_empty (magnitude_ne_nil _ _ _ _)

theorem numberText_ne_empty (number : Number) : number.text ≠ "" := by
  cases number with
  | float value => exact full_ne_empty (by decide) (by decide) value
  | int value =>
    intro empty
    have chars := congrArg String.toList empty
    cases value with
    | ofNat n => simp [Number.text, Number.written, Text.intText, Text.natText, Text.natDigits] at chars
    | negSucc n => simp [Number.text, Number.written, Text.intText] at chars

theorem plain_ne_empty {value : Json} (truthy : value.isTruthy = true) : value.plain ≠ "" := by
  cases value with
  | null => cases truthy
  | bool value =>
    obtain rfl : value = true := truthy
    decide
  | number number => exact numberText_ne_empty number
  | text text =>
    rintro rfl
    cases truthy
  | list items => simp [Json.plain, Json.literal]
  | object fields => simp [Json.plain, Json.literal]

namespace Gemini

def firstCandidate? (chunk : Fields) : Option Fields :=
  match Json.field "candidates" chunk with
  | .list (.object candidate :: _) => some candidate
  | _ => none

def block? (chunk : Fields) : Option Json :=
  match Json.field "promptFeedback" chunk with
  | .object feedback =>
      if (Json.field "blockReason" feedback).isTruthy then some (Json.field "blockReason" feedback) else none
  | _ => none

def spokenWords (chunk : Fields) : List String :=
  ((firstCandidate? chunk).map fun candidate => looseText (Json.field "finishReason" candidate)).toList.filter
    fun word => !word.isEmpty

def words (chunk : Fields) : List String := spokenWords chunk ++ ((block? chunk).map Json.plain).toList

/-- A chunk says that its first candidate was stopped, or that its prompt was blocked. -/
def Stopped (body : Json) : Prop :=
  ∃ chunk ∈ chunks body,
    (∃ candidate, firstCandidate? chunk = some candidate ∧
      (Json.field "finishReason" candidate = .text "SAFETY" ∨ Json.field "finishReason" candidate = .text "RECITATION")) ∨
    block? chunk ≠ none

/-- The body calls a function, or it has a candidate and its last word is another one. -/
def Masked (body : Json) : Prop :=
  calls body ≠ [] ∨
    (∃ chunk ∈ chunks body, firstCandidate? chunk ≠ none) ∧ ((chunks body).flatMap words).getLast? = some "STOP"

theorem firstCandidate?_of_falsy {chunk : Fields} (falsy : (Json.field "candidates" chunk).isTruthy = false) :
    firstCandidate? chunk = none := by
  unfold firstCandidate?
  split
  next held =>
    rw [held] at falsy
    cases falsy
  next => rfl

theorem candidate?_eq_ok {chunk : Fields} {candidate : Option Fields} (read : candidate? chunk = .ok candidate) :
    firstCandidate? chunk = candidate := by
  unfold candidate? at read
  obtain ⟨items, listed, read⟩ := bind_eq_ok.1 read
  cases items with
  | nil =>
    obtain rfl := Except.ok.inj read
    obtain held | ⟨_, falsy⟩ := optionalList_eq_ok listed
    · simp only [firstCandidate?, held]
    · exact firstCandidate?_of_falsy falsy
  | cons first rest =>
    obtain ⟨found, object, read⟩ := bind_eq_ok.1 read
    obtain ⟨_, _, read⟩ := bind_eq_ok.1 read
    obtain ⟨_, _, read⟩ := bind_eq_ok.1 read
    obtain ⟨_, _, read⟩ := bind_eq_ok.1 read
    obtain ⟨_, _, read⟩ := bind_eq_ok.1 read
    obtain rfl := Except.ok.inj read
    obtain held | ⟨none, _⟩ := optionalList_eq_ok listed
    · cases first with
      | object fields =>
        obtain rfl := Except.ok.inj object
        simp only [firstCandidate?, held]
      | _ => cases object
    · cases none

theorem addFirst_eq_ok {stream next : Stream} {chunk : Fields} (added : stream.addFirst chunk = .ok next) :
    next.hasCandidates = (stream.hasCandidates || (firstCandidate? chunk).isSome) ∧
      next.finish = (spokenWords chunk).getLast?.getD stream.finish := by
  unfold Stream.addFirst at added
  obtain ⟨candidate, read, added⟩ := bind_eq_ok.1 added
  rw [spokenWords, candidate?_eq_ok read]
  cases candidate with
  | none =>
    obtain rfl := Except.ok.inj added
    simp
  | some candidate =>
    unfold Stream.addCandidate at added
    obtain ⟨cited, _, added⟩ := bind_eq_ok.1 added
    obtain ⟨rated, _, added⟩ := bind_eq_ok.1 added
    obtain rfl := Except.ok.inj added
    cases empty : (looseText (Json.field "finishReason" candidate)).isEmpty with
    | true => simp [empty]
    | false => simp [empty]

theorem addFeedback_eq_ok {stream next : Stream} {chunk feedback : Fields}
    (given : optionalObject name "promptFeedback" "promptFeedback" chunk = .ok feedback)
    (added : stream.addFeedback feedback = .ok next) :
    next.hasCandidates = stream.hasCandidates ∧
      next.finish = ((block? chunk).map Json.plain).toList.getLast?.getD stream.finish := by
  have same : block? chunk = if (Json.field "blockReason" feedback).isTruthy then
      some (Json.field "blockReason" feedback) else none := by
    unfold block?
    obtain held | ⟨rfl, falsy⟩ := optionalObject_eq_ok given
    · rw [held]
    · split
      next held =>
        rw [held] at falsy
        obtain rfl : _ = [] := by simpa [Json.isTruthy] using falsy
        rfl
      next => rfl
  unfold Stream.addFeedback at added
  dsimp only at added
  rw [same]
  split at added
  next blocked =>
    obtain ⟨rated, _, added⟩ := bind_eq_ok.1 added
    obtain rfl := Except.ok.inj added
    simp [blocked]
  next unblocked =>
    obtain rfl := Except.ok.inj added
    simp [unblocked]

theorem addUsage_eq_ok {stream next : Stream} {metadata : Fields} (added : stream.addUsage metadata = .ok next) :
    next.hasCandidates = stream.hasCandidates ∧ next.finish = stream.finish := by
  unfold Stream.addUsage at added
  obtain ⟨prompt, _, added⟩ := bind_eq_ok.1 added
  obtain ⟨completion, _, added⟩ := bind_eq_ok.1 added
  obtain ⟨total, _, added⟩ := bind_eq_ok.1 added
  obtain rfl := Except.ok.inj added
  exact ⟨rfl, rfl⟩

theorem add_eq_ok {stream next : Stream} {chunk : Fields} (added : stream.add chunk = .ok next) :
    next.hasCandidates = (stream.hasCandidates || (firstCandidate? chunk).isSome) ∧
      next.finish = (words chunk).getLast?.getD stream.finish := by
  rw [add_eq] at added
  obtain ⟨first, candidate, added⟩ := bind_eq_ok.1 added
  obtain ⟨feedback, given, added⟩ := bind_eq_ok.1 added
  obtain ⟨second, noted, added⟩ := bind_eq_ok.1 added
  obtain ⟨metadata, _, added⟩ := bind_eq_ok.1 added
  obtain ⟨has, finish⟩ := addFirst_eq_ok candidate
  obtain ⟨hasToo, finishToo⟩ := addFeedback_eq_ok given noted
  obtain ⟨still, last⟩ := addUsage_eq_ok added
  refine ⟨by rw [still, hasToo, has], ?_⟩
  rw [last, finishToo, finish, words, List.getLast?_append, Option.getD_or]

/-- All chunks of a body: the last word of all is what counts. -/
theorem foldlM_add_eq_ok {stream last : Stream} {chunks : List Fields}
    (added : chunks.foldlM Stream.add stream = .ok last) :
    last.hasCandidates = (stream.hasCandidates || chunks.any fun chunk => (firstCandidate? chunk).isSome) ∧
      last.finish = (chunks.flatMap words).getLast?.getD stream.finish := by
  induction chunks generalizing stream with
  | nil =>
    obtain rfl := Except.ok.inj added
    simp
  | cons chunk rest ih =>
    rw [List.foldlM_cons] at added
    obtain ⟨next, first, added⟩ := bind_eq_ok.1 added
    obtain ⟨has, finish⟩ := add_eq_ok first
    obtain ⟨hasLater, finishLater⟩ := ih added
    refine ⟨by rw [hasLater, has, List.any_cons, Bool.or_assoc], ?_⟩
    rw [finishLater, finish, List.flatMap_cons, List.getLast?_append, Option.getD_or]

theorem ne_empty_of_mem_words {chunk : Fields} {word : String} (said : word ∈ words chunk) : word ≠ "" := by
  unfold words at said
  obtain spoken | blocked := List.mem_append.1 said
  · have filled := (List.mem_filter.1 spoken).2
    simpa using filled
  · obtain ⟨reason, held, rfl⟩ := Option.map_eq_some_iff.1 (Option.mem_toList.1 blocked)
    unfold block? at held
    split at held
    next =>
      split at held
      next truthy =>
        obtain rfl := Option.some.inj held
        exact plain_ne_empty truthy
      next => cases held
    next => cases held

theorem words_ne_nil_of_stopped {body : Json} (stopped : Stopped body) : (chunks body).flatMap words ≠ [] := by
  obtain ⟨chunk, held, stop⟩ := stopped
  suffices speaks : words chunk ≠ [] by
    intro silent
    exact speaks (List.flatMap_eq_nil_iff.1 silent chunk held)
  unfold words spokenWords
  obtain ⟨candidate, first, word | word⟩ | blocked := stop
  · simp [first, word, looseText_text]
  · simp [first, word, looseText_text]
  · simp [blocked]

theorem reply_eq_ok {settings : Settings} {elapsed : Number} {body : Json} {reply : Reply}
    (read : Gemini.reply settings elapsed body = .ok reply) :
    reply.body = body ∧ ∃ stream : Stream, reply.finish = finishOf stream (!(calls body).isEmpty) ∧
      stream.hasCandidates = (chunks body).any (fun chunk => (firstCandidate? chunk).isSome) ∧
      stream.finish = ((chunks body).flatMap words).getLast?.getD "" := by
  unfold Gemini.reply at read
  split at read
  next => cases read
  next =>
    obtain ⟨stream, added, read⟩ := bind_eq_ok.1 read
    obtain ⟨has, finish⟩ := foldlM_add_eq_ok added
    split at read
    next => cases read
    next =>
      obtain rfl := Except.ok.inj read
      exact ⟨rfl, stream, rfl, by simpa using has, finish⟩

/-- Of the vendor's words, only one says that the answer is complete. -/
theorem isRejection_word (word : String) :
    ((finishes.lookup word).getD .other = .stop ∨ (finishes.lookup word).getD .other = .functionCall) ↔ word = "STOP" := by
  constructor
  · intro counts
    cases found : finishes.lookup word with
    | none => simp [found] at counts
    | some finish =>
      obtain ⟨before, after, split, _⟩ := List.lookup_eq_some_iff.1 found
      have entry : (word, finish) ∈ finishes := by simp [split]
      have only : ∀ entry ∈ finishes, entry.2 = .stop ∨ entry.2 = .functionCall → entry.1 = "STOP" := by decide
      exact only _ entry (by simpa [found] using counts)
  · rintro rfl
    decide

theorem isRejection_iff {settings : Settings} {elapsed : Number} {body : Json} {reply : Reply}
    (read : Gemini.reply settings elapsed body = .ok reply) (stopped : Stopped body) :
    reply.isRejection = true ↔ ¬Masked body := by
  obtain ⟨_, stream, finish, has, last⟩ := reply_eq_ok read
  obtain ⟨word, said⟩ : ∃ word, ((chunks body).flatMap words).getLast? = some word :=
    Option.isSome_iff_exists.1 (List.getLast?_isSome.2 (words_ne_nil_of_stopped stopped))
  have spoken : word ≠ "" := by
    obtain ⟨chunk, _, held⟩ := List.mem_flatMap.1 (List.mem_of_getLast? said)
    exact ne_empty_of_mem_words held
  have candidate : (∃ chunk ∈ chunks body, firstCandidate? chunk ≠ none) ↔ stream.hasCandidates = true := by
    rw [has, List.any_eq_true]
    simp only [ne_eq, Option.isSome_iff_ne_none]
  rw [said, Option.getD_some] at last
  have filled : word.isEmpty = false := by simpa using spoken
  rw [Masked, Reply.isRejection, finish, said, candidate]
  cases calls body with
  | cons call others => simp [finishOf]
  | nil =>
    cases held : stream.hasCandidates with
    | false => simp [finishOf, held]
    | true =>
      have complete := isRejection_word word
      simp only [finishOf, held, last, filled, List.isEmpty_nil, Bool.not_true, Bool.false_eq_true, if_false]
      simp only [Bool.and_eq_true, decide_eq_true_eq, ne_eq, not_true_eq_false, false_or, true_and, Option.some.injEq,
        ← complete, not_or]

end Gemini

theorem body_of_reply {vendor : Vendor} {settings : Settings} {elapsed : Number} {body : Json} {reply : Reply}
    (read : vendor.adapter.reply settings elapsed body = .ok reply) : reply.body = body := by
  cases vendor with
  | gemini => exact (Gemini.reply_eq_ok read).1
  | claude => exact (Claude.reply_eq_ok read).1
  | gpt | mistral | deepseek | groq => exact (Chat.reply_eq_ok read).1

/-- The body carries a stop for reasons of policy, by the vendor's own signs for it. -/
def Stopped : Vendor → Json → Prop
  | gemini => Gemini.Stopped
  | gpt => Chat.Stopped Chat.gpt
  | claude => Claude.Stopped
  | mistral => Chat.Stopped Chat.mistral
  | deepseek => Chat.Stopped Chat.deepseek
  | groq => Chat.Stopped Chat.groq

/-- The body carries something that goes before a stop. -/
def Masked : Vendor → Json → Prop
  | gemini => Gemini.Masked
  | gpt => Chat.Masked Chat.gpt
  | claude => Claude.Masked
  | mistral => Chat.Masked Chat.mistral
  | deepseek => Chat.Masked Chat.deepseek
  | groq => Chat.Masked Chat.groq

/-- A body with a stop is read as a rejection unless something masks it. -/
theorem isRejection_iff {vendor : Vendor} {settings : Settings} {elapsed : Number} {body : Json} {reply : Reply}
    (read : vendor.adapter.reply settings elapsed body = .ok reply) (stopped : vendor.Stopped body) :
    reply.isRejection = true ↔ ¬vendor.Masked body := by
  cases vendor with
  | gemini => exact Gemini.isRejection_iff read stopped
  | claude => exact Claude.isRejection_iff read stopped
  | gpt | mistral | deepseek | groq => exact Chat.isRejection_iff (by decide) read stopped

end Parley.Vendor

