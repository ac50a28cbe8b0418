import Mathlib.Data.List.Forall2
import Parley.Proofs.Extraction.Placement
import Parley.Proofs.Json.Roundtrip
import Parley.Proofs.Vendor.Stopping

/-!
What a vendor says, apart from how it is put on the wire. `Utters` tells for each wire format which bodies say an
utterance; the main result is that every one of them is read as the same reply, up to labels and timing.
-/

namespace Parley.Vendor

/-- A text, calls by name with objects of arguments, and the tokens that these took. -/
structure Utterance where
  text : String
  calls : List (String × Fields)
  prompt : Nat
  completion : Nat
  named : ∀ call ∈ calls, call.1 ≠ ""

namespace Utterance

def finish (utterance : Utterance) : Finish := if utterance.calls.isEmpty then .stop else .functionCall

def total (utterance : Utterance) : Nat := utterance.prompt + utterance.completion

/-- The word for why generation ended: one for an answer, and one that may stand in its place where there are calls. -/
def EndsWith (utterance : Utterance) (answered called word : String) : Prop :=
  word = answered ∨ (utterance.calls ≠ [] ∧ word = called)

theorem endsWith (utterance : Utterance) (answered called : String) :
    utterance.EndsWith answered called (if utterance.calls.isEmpty then answered else called) := by
  cases silent : utterance.calls.isEmpty with
  | true => exact .inl rfl
  | false => exact .inr ⟨fun none => by simp [none] at silent, rfl⟩

theorem EndsWith.eq_answered {utterance : Utterance} {answered called word : String}
    (ends : utterance.EndsWith answered called word) (silent : utterance.calls.isEmpty = true) : word = answered :=
  ends.resolve_right fun other => other.1 (List.isEmpty_iff.1 silent)

end Utterance

def Carried (given : Json × Json) (call : String × Fields) : Prop :=
  given.1 = .text call.1 ∧ Extraction.Spells given.2 call.2

/-- A vendor's calls are those of an utterance. -/
def Carries (calls : List (Json × Json)) (utterance : Utterance) : Prop := List.Forall₂ Carried calls utterance.calls

theorem Carries.isEmpty_eq {calls : List (Json × Json)} {utterance : Utterance} (carries : Carries calls utterance) :
    calls.isEmpty = utterance.calls.isEmpty := by
  rw [Carries] at carries
  generalize utterance.calls = spoken at carries
  cases carries with
  | nil => rfl
  | cons => rfl

structure Says (reply : Reply) (utterance : Utterance) : Prop where
  text : reply.text = Text.answerText utterance.text
  finish : reply.finish = utterance.finish
  prompt : reply.usage.prompt = utterance.prompt
  completion : reply.usage.completion = utterance.completion
  total : reply.usage.total = utterance.total
  citations : reply.citations = []
  ratings : reply.ratings = []

/-- What the fields of a vendor's list hold is found call by call. -/
theorem carried_filterMap {R : Fields → String × Fields → Prop} {find : Fields → Option (Json × Json)}
    {items : List Fields} {calls : List (String × Fields)} (each : List.Forall₂ R items calls)
    (finds : ∀ item, ∀ call ∈ calls, R item call → ∃ given, find item = some given ∧ Carried given call) :
    List.Forall₂ Carried (items.filterMap find) calls := by
  induction each with
  | nil => exact .nil
  | @cons item call items calls related _ ih =>
    obtain ⟨given, found, carried⟩ := finds item call List.mem_cons_self related
    rw [List.filterMap_cons_some found]
    exact .cons carried (ih fun item call held => finds item call (List.mem_cons_of_mem _ held))

theorem forM_eq_ok {α : Type} {check : α → Except Failure Unit} {items : List α}
    (each : ∀ item ∈ items, check item = .ok ()) : items.forM check = .ok () := by
  induction items with
  | nil => rfl
  | cons item rest ih =>
    change (check item >>= fun _ => rest.forM check) = .ok ()
    rw [each item List.mem_cons_self]
    exact ih fun other held => each other (List.mem_cons_of_mem _ held)

theorem forall_left_of_forall₂ {α β : Type} {R : α → β → Prop} {items : List α} {others : List β}
    (each : List.Forall₂ R items others) : ∀ item ∈ items, ∃ other ∈ others, R item other := by
  induction each with
  | nil => exact fun _ held => nomatch held
  | cons related _ ih =>
    intro item held
    obtain rfl | held := List.mem_cons.1 held
    · exact ⟨_, List.mem_cons_self, related⟩
    · obtain ⟨other, there, related⟩ := ih item held
      exact ⟨other, List.mem_cons_of_mem _ there, related⟩

theorem objectsOf_map (items : List Fields) : objectsOf (items.map .object) = items := by
  simp [objectsOf, List.filterMap_map]

theorem mapM_expectObject {provider what : String} (items : List Fields) :
    (items.map Json.object).mapM (expectObject provider what) = .ok items := by
  induction items with
  | nil => rfl
  | cons item rest ih =>
    rw [List.map_cons, List.mapM_cons]
    exact bind_eq_ok.2 ⟨item, rfl, bind_eq_ok.2 ⟨rest, ih, rfl⟩⟩

theorem join_of_empty {texts : List String} (empty : ∀ text ∈ texts, text = "") : String.join texts = "" := by
  induction texts with
  | nil => rfl
  | cons text rest ih =>
    rw [String.join_cons, empty text List.mem_cons_self, ih fun other held => empty other (List.mem_cons_of_mem _ held)]
    rfl

section

variable {provider what key : String} {fields : Fields}

theorem optionalText_of_field {text : String} (held : Json.field key fields = .text text) :
    optionalText provider what key fields = .ok text := by
  unfold optionalText Json.orElse
  rw [held]
  split
  next => rfl
  next falsy =>
    obtain rfl : text = "" := by simpa [Json.isTruthy] using falsy
    rfl

theorem presentText_of_lookup {text : String} (held : fields.lookup key = some (.text text)) :
    presentText provider what key fields = .ok text := by
  rw [presentText, held]
  rfl

theorem optionalList_of_field {items : List Json} (held : Json.field key fields = .list items) :
    optionalList provider what key fields = .ok items := by
  unfold optionalList
  rw [held]
  cases items with
  | nil => rfl
  | cons => rfl

theorem optionalList_of_null (held : Json.field key fields = .null) : optionalList provider what key fields = .ok [] := by
  unfold optionalList
  rw [held]
  rfl

theorem optionalObject_of_field {object : Fields} (held : Json.field key fields = .object object) :
    optionalObject provider what key fields = .ok object := by
  unfold optionalObject
  rw [held]
  cases object with
  | nil => rfl
  | cons => rfl

theorem optionalObject_of_null (held : Json.field key fields = .null) :
    optionalObject provider what key fields = .ok [] := by
  unfold optionalObject
  rw [held]
  rfl

end

section

variable {usage : Usage}

theorem prompt_filled : usage.filled.prompt = usage.prompt := by
  unfold Usage.filled
  split
  · rfl
  · rfl

theorem completion_filled : usage.filled.completion = usage.completion := by
  unfold Usage.filled
  split
  · rfl
  · rfl

theorem total_filled (tells : usage.total = 0 ∨ usage.total = usage.prompt + usage.completion) :
    usage.filled.total = usage.prompt + usage.completion := by
  unfold Usage.filled
  split
  next => rfl
  next given => exact tells.resolve_left given

end

theorem count_int (n : Nat) : count (.int n) = .ok (n : Int) := rfl

theorem isTruthy_text {text : String} (filled : text ≠ "") : (Json.text text).isTruthy = true := by
  simpa [Json.isTruthy] using filled

theorem orElse_object (fields : Fields) : (Json.object fields).orElse (.object []) = .object fields := by
  cases fields with
  | nil => rfl
  | cons => rfl

namespace Gemini

def Calls (part : Fields) (call : String × Fields) : Prop :=
  part.lookup "text" = none ∧ ∃ function, Json.field "functionCall" part = .object function ∧
    Json.field "name" function = .text call.1 ∧ Json.field "args" function = .object call.2

/-- A body says an utterance in its one candidate: the text in a part, then each call in a part of its own. -/
inductive Utters (utterance : Utterance) : Json → Prop where
  | body {fields candidate content said counts : Fields} {parts : List Fields}
      (candidates : Json.field "candidates" fields = .list [.object candidate])
      (opened : Json.field "content" candidate = .object content)
      (listed : Json.field "parts" content = .list (.object said :: parts.map .object))
      (spoken : said.lookup "text" = some (.text utterance.text)) (callless : Json.field "functionCall" said = .null)
      (calls : List.Forall₂ Calls parts utterance.calls)
      (finish : Json.field "finishReason" candidate = .text "STOP")
      (uncited : Json.field "citationMetadata" candidate = .null)
      (unrated : Json.field "safetyRatings" candidate = .null)
      (unblocked : Json.field "promptFeedback" fields = .null)
      (usage : Json.field "usageMetadata" fields = .object counts)
      (prompt : Json.field "promptTokenCount" counts = .int utterance.prompt)
      (completion : Json.field "candidatesTokenCount" counts = .int utterance.completion)
      (total : Json.field "totalTokenCount" counts = .int utterance.total) : Utters utterance (.object fields)

def body (utterance : Utterance) : Json :=
  let part (call : String × Fields) : Fields :=
    [("functionCall", .object [("name", call.1), ("args", .object call.2)])]
  .object [
    ("candidates", .list [.object [
      ("content", .object [("parts",
        .list (.object [("text", utterance.text)] :: (utterance.calls.map part).map .object))]),
      ("finishReason", "STOP")]]),
    ("usageMetadata", .object [("promptTokenCount", .int utterance.prompt),
      ("candidatesTokenCount", .int utterance.completion), ("totalTokenCount", .int utterance.total)])]

theorem utters_body (utterance : Utterance) : Utters utterance (body utterance) := by
  refine .body rfl rfl rfl rfl rfl ?_ rfl rfl rfl rfl rfl rfl rfl rfl
  rw [List.forall₂_map_left_iff]
  exact List.forall₂_same.2 fun call _ => ⟨rfl, _, rfl, rfl, rfl⟩

theorem partCall?_of_calls {part : Fields} {call : String × Fields} (calls : Calls part call) (named : call.1 ≠ "") :
    partCall? part = some (.text call.1, .object call.2) := by
  obtain ⟨_, function, held, name, arguments⟩ := calls
  simp only [partCall?, held, name, arguments, isTruthy_text named, orElse_object, if_true]

theorem checkPart_of_calls {part : Fields} {call : String × Fields} (calls : Calls part call) :
    checkPart (.object part) = .ok () := by
  obtain ⟨silent, function, held, _⟩ := calls
  have text : presentText name "part text" "text" part = .ok "" := by simp only [presentText, silent]; rfl
  exact bind_eq_ok.2 ⟨part, rfl, bind_eq_ok.2 ⟨"", text, bind_eq_ok.2 ⟨function, optionalObject_of_field held, rfl⟩⟩⟩

theorem latestCount_zero (count : Int) : latestCount count 0 = count := by
  unfold latestCount
  split
  next none => exact none.symm
  next => rfl

section

variable {utterance : Utterance} {fields candidate content said counts : Fields} {parts : List Fields}

theorem parts_of_fields (candidates : Json.field "candidates" fields = .list [.object candidate])
    (opened : Json.field "content" candidate = .object content)
    (listed : Json.field "parts" content = .list (.object said :: parts.map .object)) :
    Gemini.parts (.object fields) = said :: parts := by
  have own : objectsOf (.object said :: parts.map .object) = said :: parts := objectsOf_map (said :: parts)
  simp only [Gemini.parts, chunks, List.flatMap_cons, List.flatMap_nil, List.append_nil, chunkParts, candidates, opened,
    listed, own]

/-- A first candidate is read where its reason to end is a text and its parts are in order. -/
theorem candidate?_of_first {others items : List Json} {text : String}
    (first : Json.field "candidates" fields = .list (.object candidate :: others))
    (finish : optionalText name "finishReason" "finishReason" candidate = .ok text)
    (opened : Json.field "content" candidate = .object content) (listed : Json.field "parts" content = .list items)
    (sound : items.forM checkPart = .ok ()) : candidate? fields = .ok (some candidate) := by
  refine bind_eq_ok.2 ⟨_, optionalList_of_field first, bind_eq_ok.2 ⟨candidate, rfl, ?_⟩⟩
  refine bind_eq_ok.2 ⟨_, finish, bind_eq_ok.2 ⟨_, optionalObject_of_field opened, ?_⟩⟩
  exact bind_eq_ok.2 ⟨_, optionalList_of_field listed, bind_eq_ok.2 ⟨(), sound, rfl⟩⟩

theorem citations_of_null (uncited : Json.field "citationMetadata" candidate = .null) : citations candidate = .ok [] :=
  bind_eq_ok.2 ⟨[], optionalObject_of_null uncited, rfl⟩

theorem ratings_of_null (unrated : Json.field "safetyRatings" candidate = .null) : ratings candidate = .ok [] :=
  bind_eq_ok.2 ⟨[], optionalList_of_null unrated, rfl⟩

theorem candidate?_of_fields (candidates : Json.field "candidates" fields = .list [.object candidate])
    (opened : Json.field "content" candidate = .object content)
    (listed : Json.field "parts" content = .list (.object said :: parts.map .object))
    (spoken : said.lookup "text" = some (.text utterance.text)) (callless : Json.field "functionCall" said = .null)
    (calls : List.Forall₂ Calls parts utterance.calls)
    (finish : Json.field "finishReason" candidate = .text "STOP") : candidate? fields = .ok (some candidate) := by
  have first : checkPart (.object said) = .ok () := by
    exact bind_eq_ok.2 ⟨said, rfl, bind_eq_ok.2 ⟨_, presentText_of_lookup spoken,
      bind_eq_ok.2 ⟨_, optionalObject_of_null callless, rfl⟩⟩⟩
  have sound : (Json.object said :: parts.map .object).forM checkPart = .ok () := by
    refine forM_eq_ok fun part held => ?_
    obtain rfl | held := List.mem_cons.1 held
    · exact first
    · obtain ⟨part, member, rfl⟩ := List.mem_map.1 held
      obtain ⟨call, _, related⟩ := forall_left_of_forall₂ calls part member
      exact checkPart_of_calls related
  exact candidate?_of_first candidates (optionalText_of_field finish) opened listed sound

theorem addCandidate_of_fields (finish : Json.field "finishReason" candidate = .text "STOP")
    (uncited : Json.field "citationMetadata" candidate = .null)
    (unrated : Json.field "safetyRatings" candidate = .null) :
    Stream.addCandidate {} candidate = .ok { finish := "STOP", hasCandidates := true } := by
  refine bind_eq_ok.2 ⟨_, citations_of_null uncited, bind_eq_ok.2 ⟨_, ratings_of_null unrated, ?_⟩⟩
  rw [finish]
  rfl

def uttered (utterance : Utterance) : Stream where
  finish := "STOP"
  prompt := utterance.prompt
  completion := utterance.completion
  total := utterance.total
  hasCandidates := true

theorem addUsage_of_fields (prompt : Json.field "promptTokenCount" counts = .int utterance.prompt)
    (completion : Json.field "candidatesTokenCount" counts = .int utterance.completion)
    (total : Json.field "totalTokenCount" counts = .int utterance.total) :
    Stream.addUsage { finish := "STOP", hasCandidates := true } counts = .ok (uttered utterance) := by
  unfold Stream.addUsage
  rw [prompt, completion, total]
  refine bind_eq_ok.2 ⟨_, count_int _, bind_eq_ok.2 ⟨_, count_int _, bind_eq_ok.2 ⟨_, count_int _, ?_⟩⟩⟩
  simp only [latestCount_zero]
  rfl

end

theorem reply_of_utters {utterance : Utterance} {body : Json} (utters : Utters utterance body) (settings : Settings)
    (elapsed : Number) :
    Carries (calls body) utterance ∧ ∃ reply, Gemini.reply settings elapsed body = .ok reply ∧ Says reply utterance := by
  cases utters with
  | @body fields candidate content said counts parts candidates opened listed spoken callless each finish uncited unrated
      unblocked usage prompt completion total =>
    have spread := parts_of_fields candidates opened listed
    have carries : Carries (calls (.object fields)) utterance := by
      rw [calls, spread, List.filterMap_cons_none (by simp only [partCall?, callless])]
      exact carried_filterMap each fun part call held related =>
        ⟨_, partCall?_of_calls related (utterance.named call held), rfl, .inl rfl⟩
    have text : String.join ((Gemini.parts (.object fields)).map partText) = utterance.text := by
      have mute : String.join (parts.map partText) = "" := by
        refine join_of_empty fun text held => ?_
        obtain ⟨part, member, rfl⟩ := List.mem_map.1 held
        obtain ⟨call, _, silent, _⟩ := forall_left_of_forall₂ each part member
        simp only [partText, silent]
      rw [spread, List.map_cons, String.join_cons, mute, String.append_empty]
      simp only [partText, spoken]
    have adds : (chunks (.object fields)).foldlM Stream.add {} = .ok (uttered utterance) := by
      have first : Stream.addFirst {} fields = .ok { finish := "STOP", hasCandidates := true } :=
        bind_eq_ok.2 ⟨_, candidate?_of_fields candidates opened listed spoken callless each finish,
          addCandidate_of_fields finish uncited unrated⟩
      have chunk : Stream.add {} fields = .ok (uttered utterance) := by
        rw [add_eq]
        refine bind_eq_ok.2 ⟨_, first, bind_eq_ok.2 ⟨_, optionalObject_of_null unblocked, bind_eq_ok.2 ⟨_, rfl, ?_⟩⟩⟩
        exact bind_eq_ok.2 ⟨_, optionalObject_of_field usage, addUsage_of_fields prompt completion total⟩
      exact bind_eq_ok.2 ⟨_, chunk, rfl⟩
    refine ⟨carries, ?_⟩
    unfold Gemini.reply
    rw [adds]
    refine ⟨_, rfl, congrArg Text.answerText text, ?_, prompt_filled, completion_filled,
      total_filled (.inr (Int.natCast_add _ _)), rfl, rfl⟩
    simp only [carries.isEmpty_eq, Utterance.finish]
    cases utterance.calls.isEmpty with
    | true => rfl
    | false => rfl

end Gemini

namespace Chat

def Lists (entry : Fields) (call : String × Fields) : Prop :=
  ∃ function raw, Json.field "function" entry = .object function ∧ Json.field "name" function = .text call.1 ∧
    Json.field "arguments" function = .text raw ∧ Json.readList raw.toList = .ok (.object call.2)

/-- A body says an utterance in the message of its first choice. A call field without entries may be left out. -/
inductive Utters (utterance : Utterance) : Json → Prop where
  | body {fields choice message counts : Fields} {others : List Json} {entries : List Fields} {word : String}
      (choices : Json.field "choices" fields = .list (.object choice :: others))
      (held : Json.field "message" choice = .object message)
      (content : Json.field "content" message = .text utterance.text)
      (listed : Json.field "tool_calls" message = .list (entries.map .object) ∨
        (entries = [] ∧ Json.field "tool_calls" message = .null))
      (calls : List.Forall₂ Lists entries utterance.calls)
      (older : Json.field "function_call" message = .null)
      (unrefused : Json.field "refusal" message = .null)
      (finish : Json.field "finish_reason" choice = .text word) (ends : utterance.EndsWith "stop" "tool_calls" word)
      (usage : Json.field "usage" fields = .object counts)
      (prompt : Json.field "prompt_tokens" counts = .int utterance.prompt)
      (completion : Json.field "completion_tokens" counts = .int utterance.completion)
      (total : Json.field "total_tokens" counts = .int utterance.total) : Utters utterance (.object fields)

def body (utterance : Utterance) : Json :=
  let entry (call : String × Fields) : Fields :=
    [("function", .object [("name", call.1), ("arguments", (Json.object call.2).render)])]
  .object [
    ("choices", .list [.object [
      ("message", .object [("content", utterance.text), ("tool_calls", .list ((utterance.calls.map entry).map .object))]),
      ("finish_reason", if utterance.calls.isEmpty then "stop" else "tool_calls")]]),
    ("usage", .object [("prompt_tokens", .int utterance.prompt), ("completion_tokens", .int utterance.completion),
      ("total_tokens", .int utterance.total)])]

theorem utters_body {utterance : Utterance}
    (written : ∀ call ∈ utterance.calls, Json.rereads Json.depthLimit (.object call.2) = true) :
    Utters utterance (body utterance) := by
  have word : (if utterance.calls.isEmpty then "stop" else "tool_calls" : Json) =
      .text (if utterance.calls.isEmpty then "stop" else "tool_calls") := by split <;> rfl
  refine .body rfl rfl rfl (.inl rfl) ?_ rfl rfl word (utterance.endsWith _ _) rfl rfl rfl rfl
  rw [List.forall₂_map_left_iff]
  refine List.forall₂_same.2 fun call held => ⟨_, _, rfl, rfl, rfl, ?_⟩
  rw [Json.render, String.toList_ofList]
  exact Json.readList_written (written call held)

theorem toolCall?_of_lists {entry : Fields} {call : String × Fields} (lists : Lists entry call) (named : call.1 ≠ "") :
    ∃ given, toolCall? (.object entry) = some given ∧ Carried given call := by
  obtain ⟨function, raw, held, name, arguments, spelled⟩ := lists
  refine ⟨(.text call.1, .text raw), ?_, rfl, .inr ⟨raw, rfl, ?_, ?_⟩⟩
  · simp only [toolCall?, namedCall?, held, name, arguments, isTruthy_text named, if_true]
  · exact Json.isBlankText_of_readList spelled
  · exact Json.readList_trimList spelled

theorem messageCalls_of_fields {message : Fields} {entries : List Fields}
    (listed : Json.field "tool_calls" message = .list (entries.map .object) ∨
      (entries = [] ∧ Json.field "tool_calls" message = .null))
    (older : Json.field "function_call" message = .null) :
    messageCalls message = entries.filterMap fun entry => toolCall? (.object entry) := by
  unfold messageCalls
  rw [older]
  obtain held | ⟨rfl, held⟩ := listed
  · simp only [held, List.filterMap_map, Function.comp_def]
    split
    next empty => exact (List.isEmpty_iff.1 empty).symm
    next => rfl
  · simp only [held]
    rfl

theorem checkCalls_of_fields {dialect : Dialect} {message : Fields} {entries : List Fields}
    {calls : List (String × Fields)}
    (listed : Json.field "tool_calls" message = .list (entries.map .object) ∨
      (entries = [] ∧ Json.field "tool_calls" message = .null))
    (each : List.Forall₂ Lists entries calls) (older : Json.field "function_call" message = .null) :
    checkCalls dialect message = .ok () := by
  have sound : (entries.map Json.object).forM (checkCall dialect) = .ok () := by
    refine forM_eq_ok fun entry held => ?_
    obtain ⟨entry, member, rfl⟩ := List.mem_map.1 held
    obtain ⟨_, _, function, _, given, _⟩ := forall_left_of_forall₂ each entry member
    exact bind_eq_ok.2 ⟨entry, rfl, bind_eq_ok.2 ⟨function, optionalObject_of_field given, rfl⟩⟩
  have read : optionalList dialect.name "tool_calls" "tool_calls" message = .ok (entries.map .object) := by
    obtain held | ⟨rfl, held⟩ := listed
    · exact optionalList_of_field held
    · exact optionalList_of_null held
  exact bind_eq_ok.2 ⟨_, read, bind_eq_ok.2 ⟨(), sound, bind_eq_ok.2 ⟨_, optionalObject_of_null older, rfl⟩⟩⟩

theorem finishOf_of_ends {dialect : Dialect} (stops : dialect.finishes.lookup "stop" = some .stop)
    {utterance : Utterance} {word : String} (ends : utterance.EndsWith "stop" "tool_calls" word) :
    finishOf dialect false (!utterance.calls.isEmpty) word = utterance.finish := by
  unfold Utterance.finish
  cases silent : utterance.calls.isEmpty with
  | false => rfl
  | true =>
    rw [ends.eq_answered silent]
    simp [finishOf, stops]

theorem reply_of_utters {dialect : Dialect} (stops : dialect.finishes.lookup "stop" = some .stop) {utterance : Utterance}
    {body : Json} (utters : Utters utterance body) (settings : Settings) (elapsed : Number) :
    Carries (calls dialect body) utterance ∧
      ∃ reply, Chat.reply dialect settings elapsed body = .ok reply ∧ Says reply utterance := by
  cases utters with
  | @body fields choice said counts others entries word choices held content listed each older unrefused finish ends usage
      prompt completion total =>
    have found : message dialect (.object fields) = .ok (choice, said) := by simp only [message, choices, held]
    have carries : Carries (messageCalls said) utterance := by
      rw [messageCalls_of_fields listed older]
      exact carried_filterMap each fun entry call held lists => toolCall?_of_lists lists (utterance.named call held)
    have tokens : ∃ used, Chat.usage dialect settings elapsed fields = .ok used ∧
        used.prompt = utterance.prompt ∧ used.completion = utterance.completion ∧ used.total = utterance.total := by
      unfold Chat.usage
      rw [optionalObject_of_field usage]
      simp only [bind, Except.bind, prompt, completion, total, count_int]
      exact ⟨_, rfl, prompt_filled, completion_filled, total_filled (.inr (Int.natCast_add _ _))⟩
    obtain ⟨used, read, tokens⟩ := tokens
    refine ⟨by simpa only [calls, found] using carries, ?_⟩
    refine ⟨_, bind_eq_ok.2 ⟨_, found, bind_eq_ok.2 ⟨word, optionalText_of_field finish, bind_eq_ok.2 ⟨utterance.text, ?_,
      bind_eq_ok.2 ⟨(), checkCalls_of_fields listed each older, bind_eq_ok.2 ⟨used, read, rfl⟩⟩⟩⟩⟩, ?_⟩
    · rw [content]
      rfl
    · refine ⟨?_, ?_, tokens.1, tokens.2.1, tokens.2.2, rfl, rfl⟩
      · simp only [unrefused]
        rfl
      · simp only [unrefused, carries.isEmpty_eq]
        exact finishOf_of_ends stops ends

end Chat

namespace Claude

def Uses (block : Fields) (call : String × Fields) : Prop :=
  Json.field "type" block = .text "tool_use" ∧ Json.field "name" block = .text call.1 ∧
    Json.field "input" block = .object call.2

/-- A body says an utterance: the text in a block, then each call in a block of its own. There is no total. -/
inductive Utters (utterance : Utterance) : Json → Prop where
  | body {fields said counts : Fields} {blocks : List Fields} {word : String}
      (content : Json.field "content" fields = .list (.object said :: blocks.map .object))
      (kind : Json.field "type" said = .text "text") (spoken : said.lookup "text" = some (.text utterance.text))
      (calls : List.Forall₂ Uses blocks utterance.calls)
      (finish : Json.field "stop_reason" fields = .text word) (ends : utterance.EndsWith "end_turn" "tool_use" word)
      (usage : Json.field "usage" fields = .object counts)
      (prompt : Json.field "input_tokens" counts = .int utterance.prompt)
      (completion : Json.field "output_tokens" counts = .int utterance.completion) : Utters utterance (.object fields)

def body (utterance : Utterance) : Json :=
  let block (call : String × Fields) : Fields :=
    [("type", "tool_use"), ("name", call.1), ("input", .object call.2)]
  .object [
    ("content", .list (.object [("type", "text"), ("text", utterance.text)] :: (utterance.calls.map block).map .object)),
    ("stop_reason", if utterance.calls.isEmpty then "end_turn" else "tool_use"),
    ("usage", .object [("input_tokens", .int utterance.prompt), ("output_tokens", .int utterance.completion)])]

theorem utters_body (utterance : Utterance) : Utters utterance (body utterance) := by
  have word : (if utterance.calls.isEmpty then "end_turn" else "tool_use" : Json) =
      .text (if utterance.calls.isEmpty then "end_turn" else "tool_use") := by split <;> rfl
  refine .body rfl rfl rfl ?_ word (utterance.endsWith _ _) rfl rfl rfl
  rw [List.forall₂_map_left_iff]
  exact List.forall₂_same.2 fun call _ => ⟨rfl, rfl, rfl⟩

theorem finishOf_of_ends {utterance : Utterance} {word : String} (ends : utterance.EndsWith "end_turn" "tool_use" word) :
    finishOf (!utterance.calls.isEmpty) word = utterance.finish := by
  unfold Utterance.finish
  cases silent : utterance.calls.isEmpty with
  | false => rfl
  | true =>
    rw [ends.eq_answered silent]
    decide

theorem isKind_of_field {kind other : String} {block : Fields} (held : Json.field "type" block = .text kind) :
    isKind other block = decide (kind = other) := by
  simp only [isKind, held, isText]

theorem blockCall?_of_uses {block : Fields} {call : String × Fields} (uses : Uses block call) (named : call.1 ≠ "") :
    blockCall? block = some (.text call.1, .object call.2) := by
  obtain ⟨kind, name, input⟩ := uses
  simp only [blockCall?, isKind_of_field kind, name, input, isTruthy_text named, orElse_object, decide_true,
    Bool.and_self, if_true]

section

variable {utterance : Utterance} {said : Fields} {blocks : List Fields}

theorem texts_of_blocks (kind : Json.field "type" said = .text "text")
    (spoken : said.lookup "text" = some (.text utterance.text)) (each : List.Forall₂ Uses blocks utterance.calls) :
    ((said :: blocks).filter (isKind "text")).mapM (presentText name "text block" "text") = .ok [utterance.text] := by
  have uses : blocks.filter (isKind "text") = [] := by
    refine List.filter_eq_nil_iff.2 fun block held => ?_
    obtain ⟨_, _, use, _⟩ := forall_left_of_forall₂ each block held
    rw [isKind_of_field use]
    decide
  have first : isKind "text" said = true := by rw [isKind_of_field kind]; rfl
  rw [List.filter_cons_of_pos first, uses, List.mapM_cons, presentText_of_lookup spoken]
  rfl

theorem checkInput_of_blocks (kind : Json.field "type" said = .text "text")
    (each : List.Forall₂ Uses blocks utterance.calls) : (said :: blocks).forM checkInput = .ok () := by
  refine forM_eq_ok fun block held => ?_
  unfold checkInput
  obtain rfl | held := List.mem_cons.1 held
  · rw [isKind_of_field kind]
    rfl
  · obtain ⟨_, _, use, _, input⟩ := forall_left_of_forall₂ each block held
    rw [isKind_of_field use, optionalObject_of_field input]
    rfl

end

theorem reply_of_utters {utterance : Utterance} {body : Json} (utters : Utters utterance body) (settings : Settings)
    (elapsed : Number) :
    Carries (calls body) utterance ∧ ∃ reply, Claude.reply settings elapsed body = .ok reply ∧ Says reply utterance := by
  cases utters with
  | @body fields said counts items word content kind spoken each finish ends usage prompt completion =>
    have found : blocks (.object fields) = .ok (fields, .object said :: items.map .object) := by
      simp only [blocks, content]
    have own : objectsOf (.object said :: items.map .object) = said :: items := objectsOf_map (said :: items)
    have carries : Carries (calls (.object fields)) utterance := by
      have silent : blockCall? said = none := by simp only [blockCall?, isKind_of_field kind]; rfl
      simp only [calls, found, own, List.filterMap_cons_none silent]
      exact carried_filterMap each fun block call held uses =>
        ⟨_, blockCall?_of_uses uses (utterance.named call held), rfl, .inl rfl⟩
    have objects : (Json.object said :: items.map .object).mapM (expectObject name "content block") =
        .ok (said :: items) := mapM_expectObject (said :: items)
    have tokens : ∃ used, Claude.usage settings elapsed fields = .ok used ∧
        used.prompt = utterance.prompt ∧ used.completion = utterance.completion ∧ used.total = utterance.total := by
      unfold Claude.usage
      rw [optionalObject_of_field usage]
      simp only [bind, Except.bind, prompt, completion, count_int]
      exact ⟨_, rfl, prompt_filled, completion_filled, total_filled (.inl rfl)⟩
    obtain ⟨used, read, tokens⟩ := tokens
    refine ⟨carries, _, bind_eq_ok.2 ⟨_, found, bind_eq_ok.2 ⟨_, objects, bind_eq_ok.2 ⟨word, optionalText_of_field finish,
      bind_eq_ok.2 ⟨_, texts_of_blocks kind spoken each, bind_eq_ok.2 ⟨(), checkInput_of_blocks kind each,
        bind_eq_ok.2 ⟨used, read, rfl⟩⟩⟩⟩⟩⟩, ?_⟩
    refine ⟨?_, ?_, tokens.1, tokens.2.1, tokens.2.2, rfl, rfl⟩
    · exact congrArg Text.answerText (by rw [String.join_cons]; exact String.append_empty)
    · simp only [carries.isEmpty_eq]
      exact finishOf_of_ends ends

end Claude

/-- A body is how a vendor says an utterance. -/
def Utters : Vendor → Utterance → Json → Prop
  | gemini => Gemini.Utters
  | claude => Claude.Utters
  | gpt | mistral | deepseek | groq => Chat.Utters

def body : Vendor → Utterance → Json
  | gemini => Gemini.body
  | claude => Claude.body
  | gpt | mistral | deepseek | groq => Chat.body

/-- Every vendor can say every utterance whose arguments can be written. -/
theorem utters_body (vendor : Vendor) {utterance : Utterance}
    (written : ∀ call ∈ utterance.calls, Json.rereads Json.depthLimit (.object call.2) = true) :
    vendor.Utters utterance (vendor.body utterance) := by
  cases vendor with
  | gemini => exact Gemini.utters_body utterance
  | claude => exact Claude.utters_body utterance
  | gpt | mistral | deepseek | groq => exact Chat.utters_body written

/-- Whatever the vendor, a body that says an utterance is read as a reply that does, with the same calls. -/
theorem reply_of_utters {vendor : Vendor} {utterance : Utterance} {body : Json} (utters : vendor.Utters utterance body)
    (settings : Settings) (elapsed : Number) :
    Carries (vendor.adapter.calls body) utterance ∧
      ∃ reply, vendor.adapter.reply settings elapsed body = .ok reply ∧ Says reply utterance := by
  cases vendor with
  | gemini => exact Gemini.reply_of_utters utters settings elapsed
  | claude => exact Claude.reply_of_utters utters settings elapsed
  | gpt | mistral | deepseek | groq => exact Chat.reply_of_utters (by decide) utters settings elapsed

end Parley.Vendor

