import Parley.Proofs.Failing
import Parley.Vendor.Catalogue

/-!
How reading a vendor's body fails. A body of the wrong shape is malformed, which the provider reports; but a token
count or an index that is infinite cannot be counted, and that failure is not the library's own. For each wire format
`Uncountable` says in which bodies this happens.
-/

namespace Parley.Vendor

def infinite : Failure := .foreign .overflow "cannot convert float infinity to integer"

def isInfinite : Json → Bool
  | .number (.float value) => (truncate? value).isNone && !value.isNaN
  | _ => false

def IsMalformed (failure : Failure) : Prop := ∃ provider text, failure = .malformed provider text

def IsUnread (failure : Failure) : Prop := IsMalformed failure ∨ failure = infinite

theorem isMalformed_misshapen (provider what wanted : String) (value : Json) :
    IsMalformed (misshapen provider what wanted value) := ⟨_, _, rfl⟩

theorem not_isMalformed_infinite : ¬IsMalformed infinite := fun ⟨_, _, same⟩ => nomatch same

theorem ne_infinite {α : Type} {step : Except Failure α} (only : FailsOnly IsMalformed step) : step ≠ .error infinite :=
  fun failed => not_isMalformed_infinite (only infinite failed)

theorem count_eq_error {value : Json} {failure : Failure} :
    count value = .error failure ↔ isInfinite value = true ∧ failure = infinite := by
  cases value with
  | number number =>
    cases number with
    | int value => simp [count, isInfinite]
    | float number =>
      cases whole : truncate? number with
      | some value => simp [count, isInfinite, whole]
      | none =>
        cases unknown : number.isNaN with
        | true =>
          simp only [count, whole, unknown, isInfinite, if_true]
          constructor
          · intro holds
            cases holds
          · intro holds
            obtain ⟨⟨⟩, _⟩ := holds
        | false =>
          simp only [count, whole, unknown, isInfinite]
          constructor
          · intro holds
            cases holds
            exact ⟨rfl, rfl⟩
          · intro holds
            obtain ⟨_, rfl⟩ := holds
            rfl
  | bool value =>
    cases value with
    | true => simp [count, isInfinite]
    | false => simp [count, isInfinite]
  | null | text | list | object => simp [count, isInfinite]

/-- A step that fails only with an infinite number goes before what follows it. -/
theorem infinite_bind_eq_error {α β : Type} {first : Except Failure α} {next : α → Except Failure β}
    {failure : Failure} {stuck later : Prop} (fails : ∀ failure, first = .error failure ↔ stuck ∧ failure = infinite)
    (follows : ∀ value, next value = .error failure ↔ later) :
    (first >>= next) = .error failure ↔ (stuck ∧ failure = infinite) ∨ (¬stuck ∧ later) := by
  rw [bind_eq_error, fails]
  refine or_congr_right ?_
  cases done : first with
  | error other =>
    have stops : stuck := ((fails other).1 done).1
    simp [stops]
  | ok value =>
    have goesOn : ¬stuck := fun stops => nomatch done.symm.trans ((fails infinite).2 ⟨stops, rfl⟩)
    simp [goesOn, follows]

theorem count_bind_eq_error {α : Type} {value : Json} {next : Int → Except Failure α} {failure : Failure}
    {later : Prop} (follows : ∀ counted, next counted = .error failure ↔ later) :
    (count value >>= next) = .error failure ↔
      (isInfinite value = true ∧ failure = infinite) ∨ (¬isInfinite value = true ∧ later) :=
  infinite_bind_eq_error (fun _ => count_eq_error) follows

section

variable (provider what key : String)

theorem expectText_shape (value : Json) : FailsOnly IsMalformed (expectText provider what value) := by
  cases value with
  | text value => exact failsOnly_ok _
  | _ => exact failsOnly_error (isMalformed_misshapen _ _ _ _)

theorem expectList_shape (value : Json) : FailsOnly IsMalformed (expectList provider what value) := by
  cases value with
  | list items => exact failsOnly_ok _
  | _ => exact failsOnly_error (isMalformed_misshapen _ _ _ _)

theorem expectObject_shape (value : Json) : FailsOnly IsMalformed (expectObject provider what value) := by
  cases value with
  | object fields => exact failsOnly_ok _
  | _ => exact failsOnly_error (isMalformed_misshapen _ _ _ _)

theorem optionalText_shape (fields : Fields) : FailsOnly IsMalformed (optionalText provider what key fields) :=
  expectText_shape _ _ _

theorem optionalList_shape (fields : Fields) : FailsOnly IsMalformed (optionalList provider what key fields) :=
  expectList_shape _ _ _

theorem optionalObject_shape (fields : Fields) : FailsOnly IsMalformed (optionalObject provider what key fields) :=
  expectObject_shape _ _ _

theorem presentText_shape (fields : Fields) : FailsOnly IsMalformed (presentText provider what key fields) :=
  expectText_shape _ _ _

end

namespace Chat

variable (dialect : Dialect)

theorem message_shape (body : Json) : FailsOnly IsMalformed (message dialect body) := by
  unfold message
  split
  · split
    · split
      · exact failsOnly_ok _
      · exact failsOnly_error ⟨_, _, rfl⟩
    · exact failsOnly_error ⟨_, _, rfl⟩
  · exact failsOnly_error ⟨_, _, rfl⟩

theorem contentText_shape (content : Json) : FailsOnly IsMalformed (contentText dialect content) := by
  unfold contentText
  split
  · exact failsOnly_ok _
  · exact failsOnly_ok _
  · refine (expectList_shape _ _ _).bind fun chunks => (failsOnly_mapM chunks fun chunk => ?_).bind fun _ => failsOnly_ok _
    exact (expectObject_shape _ _ _).bind fun fields => presentText_shape _ _ _ fields

theorem checkCalls_shape (said : Fields) : FailsOnly IsMalformed (checkCalls dialect said) := by
  refine (optionalList_shape _ _ _ said).bind fun calls => (failsOnly_forM calls fun call => ?_).bind fun _ => ?_
  · exact (expectObject_shape _ _ _).bind fun fields => (optionalObject_shape _ _ _ fields).bind fun _ => failsOnly_ok _
  · exact (optionalObject_shape _ _ _ said).bind fun _ => failsOnly_ok _

/-- A body of the right shape in which a token count is infinite. -/
def Uncountable (body : Json) : Prop :=
  ∃ choice said, message dialect body = .ok (choice, said) ∧
    (∃ word, optionalText dialect.name "finish_reason" "finish_reason" choice = .ok word) ∧
    (∃ text, contentText dialect (Json.field "content" said) = .ok text) ∧
    (∃ checked, checkCalls dialect said = .ok checked) ∧
    ∃ usage, optionalObject dialect.name "usage" "usage" (bodyFields body) = .ok usage ∧
    (isInfinite (Json.field "prompt_tokens" usage) = true ∨ isInfinite (Json.field "completion_tokens" usage) = true ∨
      isInfinite (Json.field "total_tokens" usage) = true)

theorem usage_eq_error {settings : Settings} {elapsed : Number} {body : Fields} {failure : Failure} :
    usage dialect settings elapsed body = .error failure ↔
      optionalObject dialect.name "usage" "usage" body = .error failure ∨
      ∃ usage, optionalObject dialect.name "usage" "usage" body = .ok usage ∧ failure = infinite ∧
        (isInfinite (Json.field "prompt_tokens" usage) = true ∨
          isInfinite (Json.field "completion_tokens" usage) = true ∨
          isInfinite (Json.field "total_tokens" usage) = true) := by
  unfold usage
  rw [bind_eq_error]
  refine or_congr_right (exists_congr fun fields => and_congr_right fun _ => ?_)
  rw [count_bind_eq_error fun _ => count_bind_eq_error fun _ => count_bind_eq_error fun _ =>
    (by simp [pure, Except.pure] : _ ↔ False)]
  grind

theorem reply_unread (settings : Settings) (elapsed : Number) (body : Json) :
    FailsOnly IsUnread (reply dialect settings elapsed body) := by
  refine ((message_shape dialect body).mono fun _ => .inl).bind fun read => ?_
  refine ((optionalText_shape _ _ _ read.1).mono fun _ => .inl).bind fun word => ?_
  refine ((contentText_shape dialect _).mono fun _ => .inl).bind fun text => ?_
  refine ((checkCalls_shape dialect read.2).mono fun _ => .inl).bind fun _ => ?_
  refine FailsOnly.bind (fun failure failed => ?_) fun _ => failsOnly_ok _
  obtain failed | ⟨_, _, counted, _⟩ := (usage_eq_error dialect).1 failed
  · exact .inl (optionalObject_shape _ _ _ _ failure failed)
  · exact .inr counted

theorem reply_eq_infinite {settings : Settings} {elapsed : Number} {body : Json} :
    reply dialect settings elapsed body = .error infinite ↔ Uncountable dialect body := by
  unfold reply Uncountable
  simp only [bind_eq_error, ne_infinite (message_shape dialect body), ne_infinite (optionalText_shape _ _ _ _),
    ne_infinite (contentText_shape dialect _), ne_infinite (checkCalls_shape dialect _), false_or, Prod.exists,
    usage_eq_error, ne_infinite (optionalObject_shape _ _ _ _), true_and, pure, Except.pure, reduceCtorEq, and_false,
    exists_false, or_false, exists_and_right]

theorem usage_of_reply {settings : Settings} {elapsed : Number} {body : Json} {reply : Reply}
    (read : Chat.reply dialect settings elapsed body = .ok reply) :
    usage dialect settings elapsed (bodyFields body) = .ok reply.usage := by
  unfold Chat.reply at read
  obtain ⟨⟨choice, message⟩, _, read⟩ := bind_eq_ok.1 read
  obtain ⟨word, _, read⟩ := bind_eq_ok.1 read
  obtain ⟨text, _, read⟩ := bind_eq_ok.1 read
  obtain ⟨_, _, read⟩ := bind_eq_ok.1 read
  obtain ⟨usage, used, read⟩ := bind_eq_ok.1 read
  obtain rfl := Except.ok.inj read
  exact used

end Chat

namespace Claude

theorem blocks_shape (body : Json) : FailsOnly IsMalformed (blocks body) := by
  unfold blocks
  split
  · split
    · exact failsOnly_ok _
    · exact failsOnly_error ⟨_, _, rfl⟩
  · exact failsOnly_error ⟨_, _, rfl⟩

theorem eq_object_of_blocks {body : Json} {fields : Fields} {items : List Json}
    (found : blocks body = .ok (fields, items)) : body = .object fields := by
  unfold blocks at found
  split at found
  next =>
    split at found
    next =>
      obtain ⟨rfl, _⟩ := Prod.mk.inj (Except.ok.inj found)
      rfl
    next => cases found
  next => cases found

theorem checkInput_shape (block : Fields) : FailsOnly IsMalformed (checkInput block) := by
  unfold checkInput
  split
  · exact (optionalObject_shape _ _ _ block).bind fun _ => failsOnly_ok _
  · exact failsOnly_ok _

def Uncountable (body : Json) : Prop :=
  ∃ fields items, blocks body = .ok (fields, items) ∧
    ∃ blocks, items.mapM (expectObject name "content block") = .ok blocks ∧
    (∃ word, optionalText name "stop_reason" "stop_reason" fields = .ok word) ∧
    (∃ texts, (blocks.filter (isKind "text")).mapM (presentText name "text block" "text") = .ok texts) ∧
    (∃ checked, blocks.forM checkInput = .ok checked) ∧
    ∃ usage, optionalObject name "usage" "usage" fields = .ok usage ∧
    (isInfinite (Json.field "input_tokens" usage) = true ∨ isInfinite (Json.field "output_tokens" usage) = true)

theorem usage_eq_error {settings : Settings} {elapsed : Number} {body : Fields} {failure : Failure} :
    usage settings elapsed body = .error failure ↔
      optionalObject name "usage" "usage" body = .error failure ∨
      ∃ usage, optionalObject name "usage" "usage" body = .ok usage ∧ failure = infinite ∧
        (isInfinite (Json.field "input_tokens" usage) = true ∨
          isInfinite (Json.field "output_tokens" usage) = true) := by
  unfold usage
  rw [bind_eq_error]
  refine or_congr_right (exists_congr fun fields => and_congr_right fun _ => ?_)
  rw [count_bind_eq_error fun _ => count_bind_eq_error fun _ => (by simp [pure, Except.pure] : _ ↔ False)]
  grind

theorem reply_unread (settings : Settings) (elapsed : Number) (body : Json) :
    FailsOnly IsUnread (reply settings elapsed body) := by
  refine ((blocks_shape body).mono fun _ => .inl).bind fun read => ?_
  refine ((failsOnly_mapM read.2 fun _ => expectObject_shape _ _ _).mono fun _ => .inl).bind fun blocks => ?_
  refine ((optionalText_shape _ _ _ read.1).mono fun _ => .inl).bind fun word => ?_
  refine ((failsOnly_mapM _ fun _ => presentText_shape _ _ _ _).mono fun _ => .inl).bind fun texts => ?_
  refine ((failsOnly_forM blocks checkInput_shape).mono fun _ => .inl).bind fun _ => ?_
  refine FailsOnly.bind (fun failure failed => ?_) fun _ => failsOnly_ok _
  obtain failed | ⟨_, _, counted, _⟩ := usage_eq_error.1 failed
  · exact .inl (optionalObject_shape _ _ _ _ failure failed)
  · exact .inr counted

theorem reply_eq_infinite {settings : Settings} {elapsed : Number} {body : Json} :
    reply settings elapsed body = .error infinite ↔ Uncountable body := by
  unfold reply Uncountable
  simp only [bind_eq_error, ne_infinite (blocks_shape body), ne_infinite (failsOnly_mapM _ fun _ => expectObject_shape _ _ _),
    ne_infinite (optionalText_shape _ _ _ _), ne_infinite (failsOnly_mapM _ fun _ => presentText_shape _ _ _ _),
    ne_infinite (failsOnly_forM _ checkInput_shape), false_or, Prod.exists, usage_eq_error,
    ne_infinite (optionalObject_shape _ _ _ _), true_and, pure, Except.pure, reduceCtorEq, and_false, exists_false,
    or_false, exists_and_right]

theorem usage_of_reply {settings : Settings} {elapsed : Number} {body : Json} {reply : Reply}
    (read : Claude.reply settings elapsed body = .ok reply) :
    ∃ fields items, blocks body = .ok (fields, items) ∧ usage settings elapsed fields = .ok reply.usage := by
  unfold Claude.reply at read
  obtain ⟨⟨fields, items⟩, found, read⟩ := bind_eq_ok.1 read
  obtain ⟨objects, _, read⟩ := bind_eq_ok.1 read
  obtain ⟨word, _, read⟩ := bind_eq_ok.1 read
  obtain ⟨texts, _, read⟩ := bind_eq_ok.1 read
  obtain ⟨_, _, read⟩ := bind_eq_ok.1 read
  obtain ⟨usage, used, read⟩ := bind_eq_ok.1 read
  obtain rfl := Except.ok.inj read
  exact ⟨fields, items, found, used⟩

end Claude

namespace Gemini

theorem checkPart_shape (part : Json) : FailsOnly IsMalformed (checkPart part) := by
  refine (expectObject_shape _ _ part).bind fun part => (presentText_shape _ _ _ part).bind fun _ => ?_
  exact (optionalObject_shape _ _ _ part).bind fun _ => failsOnly_ok _

theorem candidate?_shape (chunk : Fields) : FailsOnly IsMalformed (candidate? chunk) := by
  refine (optionalList_shape _ _ _ chunk).bind fun items => ?_
  cases items with
  | nil => exact failsOnly_ok _
  | cons first rest =>
    refine (expectObject_shape _ _ first).bind fun candidate => (optionalText_shape _ _ _ candidate).bind fun _ => ?_
    refine (optionalObject_shape _ _ _ candidate).bind fun content => (optionalList_shape _ _ _ content).bind fun parts => ?_
    exact (failsOnly_forM parts checkPart_shape).bind fun _ => failsOnly_ok _

theorem ratings_shape (fields : Fields) : FailsOnly IsMalformed (ratings fields) := by
  refine (optionalList_shape _ _ _ fields).bind fun values => failsOnly_mapM values fun value => ?_
  exact (expectObject_shape _ _ value).bind fun _ => failsOnly_ok _

theorem position?_eq_error {key : String} {fields : Fields} {failure : Failure} :
    position? key fields = .error failure ↔ isInfinite (Json.field key fields) = true ∧ failure = infinite := by
  unfold position? Json.field
  cases fields.lookup key with
  | none => simp [isInfinite]
  | some value => exact map_eq_error.trans count_eq_error

def IsEndless (source : Json) : Prop :=
  ∃ fields, source = .object fields ∧
    (isInfinite (Json.field "startIndex" fields) = true ∨ isInfinite (Json.field "endIndex" fields) = true)

theorem citation_eq_error {source : Json} {failure : Failure} :
    citation source = .error failure ↔
      expectObject name "citation" source = .error failure ∨ (IsEndless source ∧ failure = infinite) := by
  unfold citation IsEndless
  rw [bind_eq_error]
  refine or_congr_right ?_
  cases source with
  | object fields =>
    simp only [expectObject, Except.ok.injEq, exists_eq_left', Json.object.injEq]
    rw [infinite_bind_eq_error (fun _ => position?_eq_error) fun _ => infinite_bind_eq_error (fun _ => position?_eq_error)
      fun _ => (by simp [pure, Except.pure] : _ ↔ False)]
    grind
  | _ => simp [expectObject]

def cited (candidate : Fields) : Except Failure (List Json) := do
  let metadata ← optionalObject name "citationMetadata" "citationMetadata" candidate
  expectList name "citations"
    (firstTruthy (Json.field "citations" metadata) (Json.field "citationSources" metadata) (.list []))

theorem cited_shape (candidate : Fields) : FailsOnly IsMalformed (cited candidate) :=
  (optionalObject_shape _ _ _ candidate).bind fun _ => expectList_shape _ _ _

theorem citations_eq (candidate : Fields) : citations candidate = cited candidate >>= (·.mapM citation) := by
  unfold citations cited
  simp only [bind_assoc]

/-- A candidate that cites a source with an infinite index, after sources that can be read. -/
def CitesEndless (candidate : Fields) : Prop :=
  ∃ sources, cited candidate = .ok sources ∧ ∃ before source after, sources = before ++ source :: after ∧
    (∀ earlier ∈ before, (citation earlier).isOk = true) ∧ IsEndless source

theorem citations_eq_infinite {candidate : Fields} : citations candidate = .error infinite ↔ CitesEndless candidate := by
  simp only [citations_eq, bind_eq_error, mapM_eq_error, citation_eq_error, ne_infinite (cited_shape candidate),
    ne_infinite (expectObject_shape _ _ _), false_or, and_true]
  rfl

theorem citations_unread (candidate : Fields) : FailsOnly IsUnread (citations candidate) := by
  rw [citations_eq]
  refine ((cited_shape candidate).mono fun _ => .inl).bind fun sources => failsOnly_mapM sources fun source => ?_
  intro failure failed
  obtain failed | ⟨_, counted⟩ := citation_eq_error.1 failed
  · exact .inl (expectObject_shape _ _ _ failure failed)
  · exact .inr counted

theorem addCandidate_eq_infinite {stream : Stream} {candidate : Fields} :
    stream.addCandidate candidate = .error infinite ↔ CitesEndless candidate := by
  unfold Stream.addCandidate
  simp only [bind_eq_error, citations_eq_infinite, ne_infinite (ratings_shape candidate), pure, Except.pure,
    reduceCtorEq, and_false, exists_false, or_false]

theorem addCandidate_unread (stream : Stream) (candidate : Fields) :
    FailsOnly IsUnread (stream.addCandidate candidate) := by
  refine (citations_unread candidate).bind fun _ => ?_
  exact ((ratings_shape candidate).mono fun _ => .inl).bind fun _ => failsOnly_ok _

theorem addFeedback_shape (stream : Stream) (feedback : Fields) :
    FailsOnly IsMalformed (stream.addFeedback feedback) := by
  unfold Stream.addFeedback
  dsimp only
  split
  · exact (ratings_shape feedback).bind fun _ => failsOnly_ok _
  · exact failsOnly_ok _

def countsEndless (metadata : Fields) : Bool :=
  isInfinite (Json.field "promptTokenCount" metadata) || isInfinite (Json.field "candidatesTokenCount" metadata) ||
    isInfinite (Json.field "totalTokenCount" metadata)

theorem addUsage_eq_error {stream : Stream} {metadata : Fields} {failure : Failure} :
    stream.addUsage metadata = .error failure ↔ countsEndless metadata = true ∧ failure = infinite := by
  unfold Stream.addUsage countsEndless
  rw [count_bind_eq_error fun _ => count_bind_eq_error fun _ => count_bind_eq_error fun _ =>
    (by simp [pure, Except.pure] : _ ↔ False)]
  grind

def Stream.addFirst (stream : Stream) (chunk : Fields) : Except Failure Stream := do
  match ← candidate? chunk with
  | some candidate => stream.addCandidate candidate
  | none => pure stream

theorem add_eq (stream : Stream) (chunk : Fields) : stream.add chunk = (do
    let stream ← stream.addFirst chunk
    let stream ← stream.addFeedback (← optionalObject name "promptFeedback" "promptFeedback" chunk)
    stream.addUsage (← optionalObject name "usageMetadata" "usageMetadata" chunk)) := by
  unfold Stream.add Stream.addFirst
  simp only [bind_assoc]
  refine bind_congr fun candidate => ?_
  cases candidate with
  | none => rfl
  | some candidate => rfl

theorem addFirst_eq_infinite {stream : Stream} {chunk : Fields} :
    stream.addFirst chunk = .error infinite ↔
      ∃ candidate, candidate? chunk = .ok (some candidate) ∧ CitesEndless candidate := by
  unfold Stream.addFirst
  simp only [bind_eq_error, ne_infinite (candidate?_shape chunk), false_or]
  constructor
  · intro holds
    obtain ⟨first, found, failed⟩ := holds
    cases first with
    | none => cases failed
    | some candidate => exact ⟨candidate, found, addCandidate_eq_infinite.1 failed⟩
  · intro holds
    obtain ⟨candidate, found, endless⟩ := holds
    exact ⟨some candidate, found, addCandidate_eq_infinite.2 endless⟩

/-- A chunk of the right shape that cites a source with an infinite index, or whose running totals are infinite. -/
def ChunkUncountable (chunk : Fields) : Prop :=
  (∃ candidate, candidate? chunk = .ok (some candidate) ∧ CitesEndless candidate) ∨
  ∃ feedback usage, (Stream.addFirst {} chunk).isOk = true ∧
    optionalObject name "promptFeedback" "promptFeedback" chunk = .ok feedback ∧
    (Stream.addFeedback {} feedback).isOk = true ∧
    optionalObject name "usageMetadata" "usageMetadata" chunk = .ok usage ∧ countsEndless usage = true

theorem isOk_addFirst (stream : Stream) (chunk : Fields) :
    (stream.addFirst chunk).isOk = (Stream.addFirst {} chunk).isOk := by
  unfold Stream.addFirst Stream.addCandidate
  cases candidate? chunk with
  | error failure => rfl
  | ok first =>
    cases first with
    | none => rfl
    | some candidate =>
      cases cited : citations candidate with
      | error failure => simp [bind, Except.bind, cited]
      | ok sources =>
        cases rated : ratings candidate with
        | error failure => simp [bind, Except.bind, cited, rated]
        | ok values =>
          simp only [bind, Except.bind, cited, rated]
          rfl

theorem isOk_addFeedback (stream : Stream) (feedback : Fields) :
    (stream.addFeedback feedback).isOk = (Stream.addFeedback {} feedback).isOk := by
  unfold Stream.addFeedback
  dsimp only
  split
  · cases ratings feedback with
    | error failure => rfl
    | ok values => rfl
  · rfl

theorem isOk_iff {α : Type} {step : Except Failure α} : step.isOk = true ↔ ∃ value, step = .ok value := by
  cases step with
  | error failure => simp [Except.isOk, Except.toBool]
  | ok value => simp [Except.isOk, Except.toBool]

theorem add_eq_infinite {stream : Stream} {chunk : Fields} :
    stream.add chunk = .error infinite ↔ ChunkUncountable chunk := by
  unfold ChunkUncountable
  rw [add_eq, ← isOk_addFirst stream]
  simp only [bind_eq_error, addFirst_eq_infinite, ne_infinite (optionalObject_shape _ _ _ _),
    ne_infinite (addFeedback_shape _ _), addUsage_eq_error, and_true, false_or]
  refine or_congr_right ?_
  constructor
  · intro holds
    obtain ⟨first, added, feedback, given, later, noted, usage, told, endless⟩ := holds
    refine ⟨feedback, usage, isOk_iff.2 ⟨first, added⟩, given, ?_, told, endless⟩
    rw [← isOk_addFeedback first]
    exact isOk_iff.2 ⟨later, noted⟩
  · intro holds
    obtain ⟨feedback, usage, added, given, noted, told, endless⟩ := holds
    obtain ⟨first, added⟩ := isOk_iff.1 added
    rw [← isOk_addFeedback first] at noted
    obtain ⟨later, noted⟩ := isOk_iff.1 noted
    exact ⟨first, added, feedback, given, later, noted, usage, told, endless⟩

theorem add_unread (stream : Stream) (chunk : Fields) : FailsOnly IsUnread (stream.add chunk) := by
  rw [add_eq]
  refine FailsOnly.bind ?_ fun first => ?_
  · refine ((candidate?_shape chunk).mono fun _ => .inl).bind fun candidate => ?_
    cases candidate with
    | none => exact failsOnly_ok _
    | some candidate => exact addCandidate_unread stream candidate
  · refine ((optionalObject_shape _ _ _ chunk).mono fun _ => .inl).bind fun feedback => ?_
    refine ((addFeedback_shape first feedback).mono fun _ => .inl).bind fun later => ?_
    refine ((optionalObject_shape _ _ _ chunk).mono fun _ => .inl).bind fun metadata => ?_
    exact fun failure failed => .inr (addUsage_eq_error.1 failed).2

/-- A body in which a count or an index is infinite, after chunks that can be read. -/
def Uncountable (body : Json) : Prop :=
  ∃ before chunk after, chunks body = before ++ chunk :: after ∧ (∃ stream, before.foldlM Stream.add {} = .ok stream) ∧
    ChunkUncountable chunk

theorem reply_unread (settings : Settings) (elapsed : Number) (body : Json) :
    FailsOnly IsUnread (reply settings elapsed body) := by
  unfold reply
  dsimp only
  split
  · exact failsOnly_error (.inl ⟨_, _, rfl⟩)
  · refine (failsOnly_foldlM _ _ add_unread).bind fun stream => ?_
    split
    · exact failsOnly_error (.inl ⟨_, _, rfl⟩)
    · exact failsOnly_ok _

theorem reply_eq_infinite {settings : Settings} {elapsed : Number} {body : Json} :
    reply settings elapsed body = .error infinite ↔ Uncountable body := by
  have folds : (chunks body).foldlM Stream.add {} = .error infinite ↔ Uncountable body := by
    simp only [foldlM_eq_error, add_eq_infinite, Uncountable, exists_and_left, exists_and_right]
  rw [← folds]
  unfold reply
  dsimp only
  split
  next empty =>
    rw [List.isEmpty_iff.1 empty]
    constructor
    · intro holds
      cases holds
    · intro holds
      cases holds
  next =>
    rw [bind_eq_error]
    refine or_iff_left ?_
    intro holds
    obtain ⟨stream, _, failed⟩ := holds
    split at failed
    · cases failed
    · cases failed

end Gemini

def Uncountable : Vendor → Json → Prop
  | gemini => Gemini.Uncountable
  | claude => Claude.Uncountable
  | gpt => Chat.Uncountable Chat.gpt
  | mistral => Chat.Uncountable Chat.mistral
  | deepseek => Chat.Uncountable Chat.deepseek
  | groq => Chat.Uncountable Chat.groq

theorem reply_unread (vendor : Vendor) (settings : Settings) (elapsed : Number) (body : Json) :
    FailsOnly IsUnread (vendor.adapter.reply settings elapsed body) := by
  cases vendor with
  | gemini => exact Gemini.reply_unread settings elapsed body
  | claude => exact Claude.reply_unread settings elapsed body
  | gpt | mistral | deepseek | groq => exact Chat.reply_unread _ settings elapsed body

theorem reply_eq_infinite (vendor : Vendor) {settings : Settings} {elapsed : Number} {body : Json} :
    vendor.adapter.reply settings elapsed body = .error infinite ↔ vendor.Uncountable body := by
  cases vendor with
  | gemini => exact Gemini.reply_eq_infinite
  | claude => exact Claude.reply_eq_infinite
  | gpt | mistral | deepseek | groq => exact Chat.reply_eq_infinite _

end Parley.Vendor

