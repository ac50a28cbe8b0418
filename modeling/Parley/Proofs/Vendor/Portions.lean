import Parley.Proofs.Vendor.Streaming
import Parley.Proofs.Vendor.Utterance

namespace Parley

theorem Json.field_put_self (key : String) (value : Json) (fields : Fields) :
    Json.field key (fields.put key value) = value := by
  rw [Json.field, Table.lookup_put_self, Option.getD_some]

theorem Json.field_put_of_ne {key other : String} (value : Json) (fields : Fields) (differ : other ≠ key) :
    Json.field other (fields.put key value) = Json.field other fields := by
  rw [Json.field, Json.field, Table.lookup_put_of_ne value fields differ]

namespace Vendor.Gemini

def contentParts (candidate : Fields) : List Json :=
  match Json.field "content" candidate with
  | .object content =>
      match Json.field "parts" content with
      | .list parts => parts
      | _ => []
  | _ => []

def candidateKeys : List String := ["finishReason", "citationMetadata", "safetyRatings"]

def bodyKeys : List String := ["promptFeedback", "usageMetadata"]

structure Bears (chunk candidate : Fields) (group : List Json) : Prop where
  first : ∃ others, Json.field "candidates" chunk = .list (.object candidate :: others)
  parts : ∃ content, Json.field "content" candidate = .object content ∧ Json.field "parts" content = .list group

/-- Chunks in which a body arrives whose candidate has some parts: each chunk holds a group of the parts, and only the
last one says what the body and its candidate say besides. -/
inductive Portions (body candidate : Fields) : List Json → List Fields → Prop where
  | last {chunk own : Fields} {group : List Json} (bears : Bears chunk own group)
      (ends : ∀ key ∈ candidateKeys, Json.field key own = Json.field key candidate)
      (closes : ∀ key ∈ bodyKeys, Json.field key chunk = Json.field key body) : Portions body candidate group [chunk]
  | earlier {chunk own : Fields} {group parts : List Json} {chunks : List Fields} (bears : Bears chunk own group)
      (endless : ∀ key ∈ candidateKeys, Json.field key own = .null)
      (silent : ∀ key ∈ bodyKeys, Json.field key chunk = .null) (later : Portions body candidate parts chunks) :
      Portions body candidate (group ++ parts) (chunk :: chunks)

def portion (group : List Json) : Fields :=
  [("candidates", .list [.object [("content", .object [("parts", .list group)])]])]

/-- A body with a group of parts in place of its first candidate's own. -/
def lastPortion (body candidate : Fields) (others group : List Json) : Fields :=
  body.put "candidates" (.list (.object (candidate.put "content" (.object [("parts", .list group)])) :: others))

theorem endless_portion (group : List Json) :
    ∀ key ∈ candidateKeys, Json.field key [("content", .object [("parts", .list group)])] = .null := by
  simp [candidateKeys, Json.field, List.lookup_cons]

theorem silent_portion (group : List Json) : ∀ key ∈ bodyKeys, Json.field key (portion group) = .null := by
  simp [bodyKeys, portion, Json.field, List.lookup_cons]

theorem ends_lastPortion (candidate : Fields) (content : Json) :
    ∀ key ∈ candidateKeys, Json.field key (candidate.put "content" content) = Json.field key candidate := by
  intro key among
  apply Json.field_put_of_ne
  rintro rfl
  exact absurd among (by decide)

theorem closes_lastPortion (body candidate : Fields) (others group : List Json) :
    ∀ key ∈ bodyKeys, Json.field key (lastPortion body candidate others group) = Json.field key body := by
  intro key among
  apply Json.field_put_of_ne
  rintro rfl
  exact absurd among (by decide)

/-- Every cut of a candidate's parts into groups makes portions of its body. -/
theorem portions_of_groups (body candidate : Fields) (others : List Json) (groups : List (List Json)) (last : List Json) :
    Portions body candidate (groups.flatten ++ last) (groups.map portion ++ [lastPortion body candidate others last]) := by
  induction groups with
  | nil =>
    have bears : Bears (lastPortion body candidate others last)
        (candidate.put "content" (.object [("parts", .list last)])) last :=
      ⟨⟨others, Json.field_put_self ..⟩, ⟨_, Json.field_put_self .., rfl⟩⟩
    exact .last bears (ends_lastPortion candidate _) (closes_lastPortion body candidate others last)
  | cons group rest ih =>
    rw [List.flatten_cons, List.append_assoc, List.map_cons, List.cons_append]
    have bears : Bears (portion group) [("content", .object [("parts", .list group)])] group := ⟨⟨[], rfl⟩, ⟨_, rfl, rfl⟩⟩
    exact .earlier bears (endless_portion group) (silent_portion group) ih

section

variable {body candidate chunk own : Fields} {group parts others : List Json} {chunks : List Fields}

theorem Bears.contentParts_eq (bears : Bears chunk own group) : contentParts own = group := by
  obtain ⟨_, content, opened, listed⟩ := bears
  simp only [contentParts, opened, listed]

theorem chunkParts_of_first (first : Json.field "candidates" chunk = .list (.object own :: others)) :
    chunkParts chunk = objectsOf (contentParts own) := by
  simp only [chunkParts, contentParts, first]
  cases Json.field "content" own with
  | object content =>
    dsimp only
    cases Json.field "parts" content with
    | list parts => rfl
    | _ => rfl
  | _ => rfl

theorem Bears.chunkParts_eq (bears : Bears chunk own group) : chunkParts chunk = objectsOf group := by
  obtain ⟨others, first⟩ := bears.first
  rw [chunkParts_of_first first, bears.contentParts_eq]

theorem Portions.flatMap_chunkParts (cut : Portions body candidate parts chunks) :
    chunks.flatMap chunkParts = objectsOf parts := by
  induction cut with
  | last bears => rw [List.flatMap_cons, bears.chunkParts_eq, List.flatMap_nil, List.append_nil]
  | earlier bears _ _ _ ih =>
    rw [List.flatMap_cons, bears.chunkParts_eq, ih]
    exact List.filterMap_append.symm

/-- What has to be in order in a candidate that is read: why it ended, and its parts. -/
structure Legible (candidate : Fields) (parts : List Json) : Prop where
  finish : ∃ text, optionalText name "finishReason" "finishReason" candidate = .ok text
  parts : parts.forM checkPart = .ok ()

theorem candidate?_of_bears (bears : Bears chunk own group) (legible : Legible own group) :
    candidate? chunk = .ok (some own) := by
  obtain ⟨⟨others, first⟩, content, opened, listed⟩ := bears
  obtain ⟨⟨text, finish⟩, sound⟩ := legible
  exact candidate?_of_first first finish opened listed sound

theorem contentParts_of_read {content : Fields}
    (opened : optionalObject name "candidate content" "content" candidate = .ok content)
    (listed : optionalList name "content parts" "parts" content = .ok parts) : contentParts candidate = parts := by
  unfold contentParts
  obtain held | ⟨rfl, falsy⟩ := optionalObject_eq_ok opened
  · simp only [held]
    obtain listed | ⟨rfl, falsy⟩ := optionalList_eq_ok listed
    · simp only [listed]
    · split
      next items nonempty =>
        rw [nonempty] at falsy
        simpa [Json.isTruthy] using falsy
      next => rfl
  · obtain rfl := Except.ok.inj listed
    split
    next fields held =>
      rw [held] at falsy
      obtain rfl : fields = [] := by simpa [Json.isTruthy] using falsy
      rfl
    next => rfl

theorem legible_of_candidate? {read : Option Fields}
    (first : Json.field "candidates" body = .list (.object candidate :: others)) (found : candidate? body = .ok read) :
    read = some candidate ∧ Legible candidate (contentParts candidate) := by
  rw [candidate?, optionalList_of_field first] at found
  obtain ⟨items, same, found⟩ := bind_eq_ok.1 found
  obtain rfl : .object candidate :: others = items := Except.ok.inj same
  obtain ⟨own, same, found⟩ := bind_eq_ok.1 found
  obtain rfl : candidate = own := Except.ok.inj same
  obtain ⟨text, finish, found⟩ := bind_eq_ok.1 found
  obtain ⟨content, opened, found⟩ := bind_eq_ok.1 found
  obtain ⟨parts, listed, found⟩ := bind_eq_ok.1 found
  obtain ⟨_, sound, found⟩ := bind_eq_ok.1 found
  refine ⟨(Except.ok.inj found).symm, ⟨text, finish⟩, ?_⟩
  rw [contentParts_of_read opened listed]
  exact sound

theorem add_of_silent (begun : Bool) (found : candidate? chunk = .ok (some own))
    (endless : ∀ key ∈ candidateKeys, Json.field key own = .null) (silent : ∀ key ∈ bodyKeys, Json.field key chunk = .null) :
    Stream.add { hasCandidates := begun } chunk = .ok { hasCandidates := true } := by
  have cites : citations own = .ok [] := citations_of_null (endless "citationMetadata" (by decide))
  have rates : ratings own = .ok [] := ratings_of_null (endless "safetyRatings" (by decide))
  have unfinished : Json.field "finishReason" own = .null := endless "finishReason" (by decide)
  have first : Stream.addFirst { hasCandidates := begun } chunk = .ok { hasCandidates := true } := by
    refine bind_eq_ok.2 ⟨_, found, bind_eq_ok.2 ⟨_, cites, bind_eq_ok.2 ⟨_, rates, ?_⟩⟩⟩
    rw [unfinished]
    rfl
  have unblocked : optionalObject name "promptFeedback" "promptFeedback" chunk = .ok [] :=
    optionalObject_of_null (silent "promptFeedback" (by decide))
  have uncounted : optionalObject name "usageMetadata" "usageMetadata" chunk = .ok [] :=
    optionalObject_of_null (silent "usageMetadata" (by decide))
  rw [add_eq]
  exact bind_eq_ok.2 ⟨_, first, bind_eq_ok.2 ⟨_, unblocked, bind_eq_ok.2 ⟨_, rfl, bind_eq_ok.2 ⟨_, uncounted, rfl⟩⟩⟩⟩

/-- A chunk that says all that a body says is added as the body itself, also after chunks with nothing but parts. -/
theorem add_of_ends (begun : Bool) (found : candidate? chunk = .ok (some own))
    (whole : candidate? body = .ok (some candidate))
    (ends : ∀ key ∈ candidateKeys, Json.field key own = Json.field key candidate)
    (closes : ∀ key ∈ bodyKeys, Json.field key chunk = Json.field key body) :
    Stream.add { hasCandidates := begun } chunk = Stream.add {} body := by
  have cites : citations own = citations candidate := by
    rw [citations, citations, optionalObject, optionalObject, ends "citationMetadata" (by decide)]
  have rates : ratings own = ratings candidate := by
    rw [ratings, ratings, optionalList, optionalList, ends "safetyRatings" (by decide)]
  have finishes : Json.field "finishReason" own = Json.field "finishReason" candidate := ends "finishReason" (by decide)
  have first : Stream.addFirst { hasCandidates := begun } chunk = Stream.addFirst {} body := by
    rw [Stream.addFirst, Stream.addFirst, found, whole]
    change Stream.addCandidate { hasCandidates := begun } own = Stream.addCandidate {} candidate
    rw [Stream.addCandidate, Stream.addCandidate, cites, rates, finishes]
  have feedback : optionalObject name "promptFeedback" "promptFeedback" chunk =
      optionalObject name "promptFeedback" "promptFeedback" body := by
    rw [optionalObject, optionalObject, closes "promptFeedback" (by decide)]
  have metadata : optionalObject name "usageMetadata" "usageMetadata" chunk =
      optionalObject name "usageMetadata" "usageMetadata" body := by
    rw [optionalObject, optionalObject, closes "usageMetadata" (by decide)]
  rw [add_eq, add_eq, first, feedback, metadata]

/-- Adding up the portions of a body comes to adding the body. -/
theorem Portions.foldlM_add (cut : Portions body candidate parts chunks) (begun : Bool)
    (whole : candidate? body = .ok (some candidate)) (legible : Legible candidate parts) :
    chunks.foldlM Stream.add { hasCandidates := begun } = Stream.add {} body := by
  induction cut generalizing begun with
  | @last chunk own group bears ends closes =>
    have finish : ∃ text, optionalText name "finishReason" "finishReason" own = .ok text := by
      rw [optionalText, ends "finishReason" (by decide)]
      exact legible.finish
    rw [List.foldlM_cons, add_of_ends begun (candidate?_of_bears bears ⟨finish, legible.parts⟩) whole ends closes]
    exact bind_pure _
  | @earlier chunk own group parts chunks bears endless silent later ih =>
    have finish : optionalText name "finishReason" "finishReason" own = .ok "" := by
      rw [optionalText, endless "finishReason" (by decide)]
      rfl
    have sound : group.forM checkPart = .ok () ∧ parts.forM checkPart = .ok () := by
      obtain ⟨_, first, rest⟩ := bind_eq_ok.1 (List.forM_append.symm.trans legible.parts)
      exact ⟨first, rest⟩
    have added := add_of_silent begun (candidate?_of_bears bears ⟨⟨"", finish⟩, sound.1⟩) endless silent
    rw [List.foldlM_cons, added]
    exact ih true ⟨legible.finish, sound.2⟩

end

theorem Portions.nonempty {body candidate : Fields} {parts : List Json} {chunks : List Fields}
    (cut : Portions body candidate parts chunks) : chunks.isEmpty = false := by
  cases cut with
  | last => rfl
  | earlier => rfl

theorem add_of_reply {settings : Settings} {elapsed : Number} {body : Fields} {reply : Reply}
    (read : Gemini.reply settings elapsed (.object body) = .ok reply) : ∃ stream, Stream.add {} body = .ok stream := by
  unfold Gemini.reply at read
  obtain ⟨stream, added, _⟩ := bind_eq_ok.1 read
  exact ⟨stream, (bind_pure _).symm.trans added⟩

/-- A body is read alike however it arrives in portions: the calls are the same, and so is the reply but for the body that
it keeps. -/
theorem reply_portions {settings : Settings} {elapsed : Number} {body candidate : Fields} {others : List Json}
    {chunks : List Fields} {reply : Reply}
    (first : Json.field "candidates" body = .list (.object candidate :: others))
    (cut : Portions body candidate (contentParts candidate) chunks)
    (read : Gemini.reply settings elapsed (.object body) = .ok reply) :
    calls (.list (chunks.map .object)) = calls (.object body) ∧
      Gemini.reply settings elapsed (.list (chunks.map .object)) =
        .ok { reply with body := .list (chunks.map .object) } := by
  have spread : Gemini.chunks (.list (chunks.map .object)) = chunks := objectsOf_map chunks
  have parted : parts (.list (chunks.map .object)) = parts (.object body) := by
    rw [parts, parts, spread, cut.flatMap_chunkParts, Gemini.chunks, List.flatMap_cons, List.flatMap_nil, List.append_nil,
      chunkParts_of_first first]
  have folded : chunks.foldlM Stream.add {} = Stream.add {} body := by
    obtain ⟨stream, added⟩ := add_of_reply read
    rw [add_eq] at added
    obtain ⟨_, opened, _⟩ := bind_eq_ok.1 added
    obtain ⟨own, found, _⟩ := bind_eq_ok.1 opened
    obtain ⟨rfl, legible⟩ := legible_of_candidate? first found
    exact cut.foldlM_add false found legible
  have streamed : (Gemini.chunks (.list (chunks.map .object))).foldlM Stream.add {} =
      (Gemini.chunks (.object body)).foldlM Stream.add {} := by
    rw [spread, folded]
    exact (bind_pure _).symm
  refine ⟨by rw [calls, calls, parted], ?_⟩
  rw [reply_congr (by rfl) (by rw [spread, cut.nonempty]) streamed parted, read]
  rfl

def greetingCandidate : Fields :=
  [("content", .object [("parts", .list [.object [("text", "Hel")], .object [("text", "lo")],
      .object [("functionCall", .object [("name", "echo"), ("args", .object [("text", "hi")])])]])]),
    ("finishReason", "STOP"),
    ("safetyRatings", .list [.object [("category", "HARM_CATEGORY_HARASSMENT"), ("probability", "LOW")]])]

def greeting : Fields :=
  [("candidates", .list [.object greetingCandidate]),
    ("usageMetadata", .object [("promptTokenCount", .int 3), ("candidatesTokenCount", .int 2)])]

def greetingChunks : List Fields :=
  [portion [.object [("text", "Hel")]], portion [],
    lastPortion greeting greetingCandidate [] ((contentParts greetingCandidate).drop 1)]

theorem portions_greeting : Portions greeting greetingCandidate (contentParts greetingCandidate) greetingChunks :=
  portions_of_groups greeting greetingCandidate [] [[.object [("text", "Hel")]], []] _

theorem greeting_in_portions :
    Json.field "candidates" greeting = .list [.object greetingCandidate] ∧
      Portions greeting greetingCandidate (contentParts greetingCandidate) greetingChunks ∧
      ∃ reply, Gemini.reply provider.settings (.int 0) (.object greeting) = .ok reply ∧
        calls (.list (greetingChunks.map .object)) = calls (.object greeting) ∧
        Gemini.reply provider.settings (.int 0) (.list (greetingChunks.map .object)) =
          .ok { reply with body := .list (greetingChunks.map .object) } := by
  have accepted : (Gemini.reply provider.settings (.int 0) (.object greeting)).isOk = true := by decide +kernel
  obtain ⟨reply, read⟩ := isOk_iff.1 accepted
  exact ⟨rfl, portions_greeting, reply, read, reply_portions rfl portions_greeting read⟩

end Vendor.Gemini

end Parley

