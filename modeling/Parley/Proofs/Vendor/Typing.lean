import Parley.Proofs.Scenario
import Parley.Proofs.Vendor.Counting

namespace Parley

inductive Kind where
  | text
  | whole
  /-- A whole number or nothing. -/
  | position
  deriving DecidableEq, Repr

def Kind.admits : Kind → Json → Bool
  | text, .text _ => true
  | whole, .number (.int _) => true
  | position, .number (.int _) => true
  | position, .null => true
  | _, _ => false

abbrev Entries := List (Kind × Json)

def Citation.position : Option Int → Json
  | some index => .int index
  | none => .null

def Citation.entries (citation : Citation) : Entries :=
  [(.text, citation.uri), (.position, position citation.start), (.position, position citation.stop),
    (.text, citation.license), (.text, citation.date)]

def SafetyRating.entries (rating : SafetyRating) : Entries := [(.text, rating.category), (.text, rating.probability)]

def Usage.entries (usage : Usage) : Entries :=
  [(.whole, .int usage.prompt), (.whole, .int usage.completion), (.whole, .int usage.total), (.text, usage.model),
    (.text, usage.provider)]

def Reply.entries (reply : Reply) : Entries :=
  (.text, reply.text) :: (.text, reply.vendorFinish) :: (reply.usage.entries ++
    reply.citations.flatMap Citation.entries ++ reply.ratings.flatMap SafetyRating.entries)

def Reply.IsTyped (reply : Reply) : Prop := ∀ entry ∈ reply.entries, entry.1.admits entry.2 = true

@[simp] theorem Kind.admits_text (value : String) : Kind.text.admits (.text value) = true := rfl

@[simp] theorem Kind.admits_int (value : Int) : Kind.whole.admits (.int value) = true := rfl

@[simp] theorem Citation.admits_position (index : Option Int) : Kind.position.admits (position index) = true := by
  cases index with
  | none => rfl
  | some index => rfl

theorem Reply.isTyped_iff (reply : Reply) : reply.IsTyped ↔ Kind.text.admits reply.usage.model = true := by
  have usage : (∀ entry ∈ reply.usage.entries, entry.1.admits entry.2 = true) ↔
      Kind.text.admits reply.usage.model = true := by simp [Usage.entries]
  have citations : ∀ entry ∈ reply.citations.flatMap Citation.entries, entry.1.admits entry.2 = true := by
    intro entry held
    obtain ⟨citation, _, among⟩ := List.mem_flatMap.1 held
    have all : ∀ entry ∈ citation.entries, entry.1.admits entry.2 = true := by simp [Citation.entries]
    exact all entry among
  have ratings : ∀ entry ∈ reply.ratings.flatMap SafetyRating.entries, entry.1.admits entry.2 = true := by
    intro entry held
    obtain ⟨rating, _, among⟩ := List.mem_flatMap.1 held
    have all : ∀ entry ∈ rating.entries, entry.1.admits entry.2 = true := by simp [SafetyRating.entries]
    exact all entry among
  rw [IsTyped, entries, List.forall_mem_cons, List.forall_mem_cons, List.forall_mem_append, List.forall_mem_append,
    usage]
  constructor
  · intro holds
    exact holds.2.2.1.1
  · intro model
    exact ⟨Kind.admits_text _, Kind.admits_text _, ⟨model, citations⟩, ratings⟩

theorem Usage.model_filled (usage : Usage) : usage.filled.model = usage.model := by
  unfold filled
  split
  next => rfl
  next => rfl

namespace Vendor

/-- Whether a value counts as there, but is not a text. -/
def isAlien (value : Json) : Bool := value.isTruthy && !Kind.text.admits value

theorem admits_orElse (value : Json) (alternative : String) :
    Kind.text.admits (value.orElse alternative) = !isAlien value := by
  unfold Json.orElse isAlien
  split
  next truthy => simp [truthy]
  next falsy =>
    simp only [falsy, Bool.false_and, Bool.not_false]
    rfl

def objectAt? (key : String) (fields : Fields) : Option Fields :=
  match Json.field key fields with
  | .object inner => some inner
  | _ => none

namespace Chat

def listedFunctions (message : Fields) : List Fields :=
  match Json.field "tool_calls" message with
  | .list items => (objectsOf items).filterMap (objectAt? "function")
  | _ => []

/-- The function objects of a message. The call field of the older kind counts only if no function in the list has a
name. -/
def messageFunctions (message : Fields) : List Fields :=
  if (listedFunctions message).any fun function => (Json.field "name" function).isTruthy then listedFunctions message
  else (objectAt? "function_call" message).toList

def functions (dialect : Dialect) (body : Json) : List Fields :=
  match message dialect body with
  | .ok (_, message) => messageFunctions message
  | .error _ => []

end Chat

namespace Claude

def functions (body : Json) : List Fields :=
  match blocks body with
  | .ok (_, items) => (objectsOf items).filter (isKind "tool_use")
  | .error _ => []

end Claude

namespace Gemini

def functions (body : Json) : List Fields := (parts body).filterMap (objectAt? "functionCall")

end Gemini

def functions : Vendor → Json → List Fields
  | gemini => Gemini.functions
  | claude => Claude.functions
  | gpt => Chat.functions Chat.gpt
  | mistral => Chat.functions Chat.mistral
  | deepseek => Chat.functions Chat.deepseek
  | groq => Chat.functions Chat.groq

/-- What a body holds as the name of its model. From one vendor's bodies no such name is taken. -/
def model : Vendor → Json → Json
  | gemini, _ => .null
  | _, body => Json.field "model" (Chat.bodyFields body)

/-- The function names that are reported are those that count as there. -/
def Reports (calls : List (Json × Json)) (functions : List Fields) : Prop :=
  calls.map Prod.fst = (functions.map (Json.field "name")).filter Json.isTruthy

/-- What is reported of each item by itself is reported of all of them. -/
theorem reports_filterMap {α : Type} {read : α → Option (Json × Json)} {function : α → Option Fields}
    (each : ∀ item, (read item).map Prod.fst = ((function item).map (Json.field "name")).filter Json.isTruthy)
    (items : List α) : Reports (items.filterMap read) (items.filterMap function) := by
  rw [Reports, List.map_filterMap, List.map_filterMap, List.filter_filterMap]
  exact congrFun (congrArg List.filterMap (funext each)) items

theorem map_named (name arguments : Json) :
    (if name.isTruthy then some (name, arguments) else none).map Prod.fst = (some name).filter Json.isTruthy := by
  cases truthy : name.isTruthy with
  | true => simp [Option.filter, truthy]
  | false => simp [Option.filter, truthy]

theorem Chat.reports_namedCall? (key : String) (fields : Fields) :
    (namedCall? (Json.field key fields)).map Prod.fst =
      ((objectAt? key fields).map (Json.field "name")).filter Json.isTruthy := by
  unfold namedCall? objectAt?
  cases Json.field key fields with
  | object function => exact map_named _ _
  | _ => rfl

theorem Reports.isEmpty_iff {calls : List (Json × Json)} {functions : List Fields} (reports : Reports calls functions) :
    calls.isEmpty = true ↔ ¬(functions.any fun function => (Json.field "name" function).isTruthy) = true := by
  calc
    calls.isEmpty = true ↔ calls.map Prod.fst = [] := by simp
    _ ↔ (functions.map (Json.field "name")).filter Json.isTruthy = [] := by rw [reports]
    _ ↔ ¬(functions.any fun function => (Json.field "name" function).isTruthy) = true := by simp

namespace Chat

def listedCalls (message : Fields) : List (Json × Json) :=
  match Json.field "tool_calls" message with
  | .list items => items.filterMap toolCall?
  | _ => []

theorem messageCalls_eq (message : Fields) : messageCalls message =
    if (listedCalls message).isEmpty then (namedCall? (Json.field "function_call" message)).toList
    else listedCalls message := rfl

theorem reports_listed (message : Fields) : Reports (listedCalls message) (listedFunctions message) := by
  unfold listedCalls listedFunctions
  cases Json.field "tool_calls" message with
  | list items =>
    have objects : items.filterMap toolCall? =
        (objectsOf items).filterMap fun call => namedCall? (Json.field "function" call) := by
      rw [objectsOf, List.filterMap_filterMap]
      congr 1
      funext item
      cases item with
      | _ => rfl
    dsimp only
    rw [objects]
    exact reports_filterMap (reports_namedCall? "function") _
  | _ => rfl

theorem reports_messageCalls (message : Fields) : Reports (messageCalls message) (messageFunctions message) := by
  have listed := reports_listed message
  rw [messageCalls_eq, messageFunctions]
  by_cases none : (listedCalls message).isEmpty = true
  · rw [if_pos none, if_neg (listed.isEmpty_iff.1 none), Reports, ← Option.toList_map, ← Option.toList_map,
      ← Option.toList_filter, reports_namedCall?]
  · rw [if_neg none, if_pos (Decidable.of_not_not (mt listed.isEmpty_iff.2 none))]
    exact listed

end Chat

theorem Chat.reports (dialect : Dialect) (body : Json) : Reports (calls dialect body) (functions dialect body) := by
  unfold calls functions
  cases message dialect body with
  | error failure => rfl
  | ok read => exact reports_messageCalls read.2

theorem Claude.reports (body : Json) : Reports (calls body) (functions body) := by
  unfold calls functions
  cases blocks body with
  | error failure => rfl
  | ok read =>
    have kinds : ∀ block, (blockCall? block).map Prod.fst =
        ((Option.guard (isKind "tool_use") block).map (Json.field "name")).filter Json.isTruthy := by
      intro block
      unfold blockCall? Option.guard
      cases kind : isKind "tool_use" block with
      | false => simp
      | true =>
        rw [Bool.true_and]
        exact map_named _ _
    dsimp only
    rw [← List.filterMap_eq_filter]
    exact reports_filterMap kinds _

theorem Gemini.reports (body : Json) : Reports (calls body) (functions body) := by
  unfold calls functions
  apply reports_filterMap
  intro part
  unfold partCall? objectAt?
  cases Json.field "functionCall" part with
  | object function => exact map_named _ _
  | _ => rfl

theorem reports (vendor : Vendor) (body : Json) : Reports (vendor.adapter.calls body) (vendor.functions body) := by
  cases vendor with
  | gemini => exact Gemini.reports body
  | claude => exact Claude.reports body
  | gpt | mistral | deepseek | groq => exact Chat.reports _ body

theorem Chat.model_of_reply {dialect : Dialect} {settings : Settings} {elapsed : Number} {body : Json} {reply : Reply}
    (read : Chat.reply dialect settings elapsed body = .ok reply) :
    reply.usage.model = (Json.field "model" (bodyFields body)).orElse settings.model := by
  have used := Chat.usage_of_reply dialect read
  unfold Chat.usage at used
  obtain ⟨fields, _, used⟩ := bind_eq_ok.1 used
  obtain ⟨prompt, _, used⟩ := bind_eq_ok.1 used
  obtain ⟨completion, _, used⟩ := bind_eq_ok.1 used
  obtain ⟨total, _, used⟩ := bind_eq_ok.1 used
  rw [← Except.ok.inj used]
  exact Usage.model_filled _

theorem Claude.model_of_reply {settings : Settings} {elapsed : Number} {body : Json} {reply : Reply}
    (read : Claude.reply settings elapsed body = .ok reply) :
    reply.usage.model = (Json.field "model" (Chat.bodyFields body)).orElse settings.model := by
  obtain ⟨fields, items, found, used⟩ := Claude.usage_of_reply read
  unfold Claude.usage at used
  obtain ⟨given, _, used⟩ := bind_eq_ok.1 used
  obtain ⟨prompt, _, used⟩ := bind_eq_ok.1 used
  obtain ⟨completion, _, used⟩ := bind_eq_ok.1 used
  rw [eq_object_of_blocks found, ← Except.ok.inj used]
  exact Usage.model_filled _

theorem Gemini.model_of_reply {settings : Settings} {elapsed : Number} {body : Json} {reply : Reply}
    (read : Gemini.reply settings elapsed body = .ok reply) : reply.usage.model = settings.model := by
  unfold Gemini.reply at read
  split at read
  next => cases read
  next =>
    obtain ⟨stream, _, read⟩ := bind_eq_ok.1 read
    split at read
    next => cases read
    next =>
      obtain rfl := Except.ok.inj read
      exact Usage.model_filled _

theorem model_of_reply {vendor : Vendor} {settings : Settings} {elapsed : Number} {body : Json} {reply : Reply}
    (read : vendor.adapter.reply settings elapsed body = .ok reply) :
    reply.usage.model = (vendor.model body).orElse settings.model := by
  cases vendor with
  | gemini => exact Gemini.model_of_reply read
  | claude => exact Claude.model_of_reply read
  | gpt | mistral | deepseek | groq => exact Chat.model_of_reply read

/-- The names that are reported are texts exactly if no function has an alien name. -/
theorem admits_calls_iff (vendor : Vendor) (body : Json) :
    (∀ call ∈ vendor.adapter.calls body, Kind.text.admits call.1 = true) ↔
      ∀ function ∈ vendor.functions body, isAlien (Json.field "name" function) = false := by
  have reported := reports vendor body
  constructor
  · intro texts function held
    rw [isAlien, Bool.and_eq_false_imp]
    intro truthy
    have named : Json.field "name" function ∈ (vendor.adapter.calls body).map Prod.fst := by
      rw [reported]
      exact List.mem_filter.2 ⟨List.mem_map.2 ⟨function, held, rfl⟩, truthy⟩
    obtain ⟨call, among, same⟩ := List.mem_map.1 named
    simp [← same, texts call among]
  · intro plain call held
    have named : call.1 ∈ ((vendor.functions body).map (Json.field "name")).filter Json.isTruthy := by
      rw [← reported]
      exact List.mem_map.2 ⟨call, held, rfl⟩
    obtain ⟨among, truthy⟩ := List.mem_filter.1 named
    obtain ⟨function, there, same⟩ := List.mem_map.1 among
    have known := plain function there
    rw [same, isAlien, truthy] at known
    simpa using known

/-- A body is malformed, or everything in its reply is of its kind and every function that is called has a text as its
name. -/
def Sound (vendor : Vendor) (settings : Settings) (elapsed : Number) (body : Json) : Prop :=
  match vendor.adapter.reply settings elapsed body with
  | .error failure => IsMalformed failure
  | .ok reply => reply.IsTyped ∧ ∀ call ∈ vendor.adapter.calls body, Kind.text.admits call.1 = true

/-- Reading a body is sound exactly if nothing in it is infinite where a whole number is wanted and, if the body is
accepted, the names in it of the model and of the functions are texts, as far as they count as there. -/
theorem sound_iff (vendor : Vendor) (settings : Settings) (elapsed : Number) (body : Json) :
    vendor.Sound settings elapsed body ↔
      ¬vendor.Uncountable body ∧ ((vendor.adapter.reply settings elapsed body).isOk = true →
        isAlien (vendor.model body) = false ∧
          ∀ function ∈ vendor.functions body, isAlien (Json.field "name" function) = false) := by
  rw [← reply_eq_infinite vendor, ← admits_calls_iff]
  unfold Sound
  cases read : vendor.adapter.reply settings elapsed body with
  | error failure =>
    constructor
    · intro malformed
      refine ⟨?_, fun accepted => by cases accepted⟩
      intro same
      exact not_isMalformed_infinite (Except.error.inj same ▸ malformed)
    · intro holds
      have kinds := reply_unread vendor settings elapsed body failure read
      exact kinds.resolve_right fun same => holds.1 (congrArg Except.error same)
  | ok reply =>
    have model : reply.IsTyped ↔ isAlien (vendor.model body) = false := by
      rw [Reply.isTyped_iff, model_of_reply read, admits_orElse, Bool.not_eq_true']
    dsimp only
    rw [model]
    constructor
    · exact fun typed => ⟨nofun, fun _ => typed⟩
    · exact fun holds => holds.2 rfl

def Chat.bare : Settings := { vendor := "gpt", apiKey := "key", model := "model", url := "url" }

def Chat.numbered : Json := .object (("model", .int 5) :: bodyFields (saying [("content", "Hi.")]))

/-- A number is handed on as the name of the model, and as that of a function. -/
theorem numbers_for_names :
    ¬gpt.Sound Chat.bare 0 Chat.numbered ∧ ¬gpt.Sound Chat.bare 0 (Chat.calling (.int 5) .null) := by
  constructor
  · have read : ∃ reply, gpt.adapter.reply Chat.bare 0 Chat.numbered = .ok reply ∧ reply.usage.model = .int 5 :=
      ⟨_, rfl, rfl⟩
    obtain ⟨reply, read, model⟩ := read
    unfold Sound
    rw [read]
    intro sound
    have named := reply.isTyped_iff.1 sound.1
    rw [model] at named
    cases named
  · have read : ∃ reply, gpt.adapter.reply Chat.bare 0 (Chat.calling (.int 5) .null) = .ok reply := ⟨_, rfl⟩
    obtain ⟨reply, read⟩ := read
    unfold Sound
    rw [read]
    intro sound
    cases sound.2 (.int 5, .null) List.mem_cons_self

end Vendor

end Parley

