import Parley.Proofs.Vendor.Stopping
import Parley.Proofs.Vendor.Streaming

/-!
How complaints are found. The message of a body may lie in a value within it, which is looked through in two ways, by
itself and as an error of its own; `Complains` says search by search what comes of this. The main result is that every
search ends, and that it ends in no message exactly where nothing is said to be an error.
-/

namespace Parley.Vendor

/-- A search has come to nothing that could be shown. -/
def Silent (answer : Option String) : Prop := answer = none ∨ answer = some ""

/-- What a search for the message of a body comes to, given what the searches come to that it makes. That a search comes to
anything says that it ends. -/
inductive Complains : Json → Option String → Prop where
  /-- Only objects are errors. -/
  | formless {body : Json} (other : ∀ fields, body ≠ .object fields) : Complains body none
  | none {fields : Fields} (empty : (Json.field "error" fields).isTruthy = false) (unmarked : isMarked fields = false) :
      Complains (.object fields) none
  | described {fields error : Fields} (held : Json.field "error" fields = .object error)
      (said : error ≠ [] ∨ isMarked fields = true) : Complains (.object fields) (some (objectMessage error))
  /-- The first item of a list is looked through as a body. -/
  | within {fields : Fields} {first : Json} {rest : List Json} {message : String}
      (held : Json.field "error" fields = .list (first :: rest)) (found : Complains first (some message))
      (shown : message ≠ "") : Complains (.object fields) (some message)
  /-- Where it is no error as a body, it is looked through as an error. -/
  | wrapped {fields : Fields} {first : Json} {rest : List Json} {answer : Option String} {message : String}
      (held : Json.field "error" fields = .list (first :: rest)) (nothing : Complains first answer)
      (silent : Silent answer) (found : Complains (.object [("error", first)]) (some message)) (shown : message ≠ "") :
      Complains (.object fields) (some message)
  /-- Where it is none either way, the list stands for itself. -/
  | listed {fields : Fields} {first : Json} {rest : List Json} {answer again : Option String}
      (held : Json.field "error" fields = .list (first :: rest)) (nothing : Complains first answer)
      (silent : Silent answer) (neither : Complains (.object [("error", first)]) again) (silentToo : Silent again) :
      Complains (.object fields) (some (Json.list (first :: rest)).literal)
  | plain {fields : Fields} (given : (Json.field "error" fields).isTruthy = true)
      (flat : ∀ error, Json.field "error" fields ≠ .object error) (single : ∀ items, Json.field "error" fields ≠ .list items) :
      Complains (.object fields) (some (Json.field "error" fields).plain)
  | marked {fields : Fields} (empty : (Json.field "error" fields).isTruthy = false)
      (flat : ∀ error, Json.field "error" fields ≠ .object error) (marked : isMarked fields = true) :
      Complains (.object fields) (some (markedMessage fields))

section

variable {value : Json} {fields : Fields}

theorem fieldMessage?_eq (fields : Fields) : fieldMessage? fields = errorMessage? (Json.field "error" fields) := by
  induction fields with
  | nil => rfl
  | cons field rest ih =>
    obtain ⟨key, value⟩ := field
    by_cases same : key = "error"
    · subst same
      rw [fieldMessage?, if_pos rfl, Json.field, List.lookup_cons_self, Option.getD_some]
    · have differ : ("error" == key) = false := by simpa using fun equal => same equal.symm
      rw [fieldMessage?, if_neg same, ih, Json.field, Json.field, List.lookup_cons, differ]

theorem errorMessage?_eq_none_iff : errorMessage? value = none ↔ value.isTruthy = false := by
  cases value with
  | object fields => cases fields <;> simp [errorMessage?, Json.isTruthy]
  | list items => cases items <;> simp [errorMessage?, Json.isTruthy]
  | bool value => cases value <;> simp [errorMessage?, Json.isTruthy]
  | null | number | text => simp [errorMessage?, Json.isTruthy]

theorem isMarked_iff : isMarked fields = true ↔ Json.field "type" fields = .text "error" := by
  unfold isMarked
  split
  next kind held => simp [held]
  next other => simpa using other "error"

/-- The message of an object: what is said under its error, and what it says itself if it is marked as one. -/
theorem bodyMessage?_object (fields : Fields) : bodyMessage? (.object fields) =
    (errorMessage? (Json.field "error" fields)).or (if isMarked fields then
      some (match Json.field "error" fields with
        | .object _ => (Json.object []).literal
        | _ => markedMessage fields) else none) := by
  rw [bodyMessage?, fieldMessage?_eq]
  cases errorMessage? (Json.field "error" fields) with
  | none => rfl
  | some message => rfl

theorem bodyMessage?_of_truthy (truthy : (Json.field "error" fields).isTruthy = true) :
    bodyMessage? (.object fields) = errorMessage? (Json.field "error" fields) := by
  rw [bodyMessage?_object]
  cases found : errorMessage? (Json.field "error" fields) with
  | some message => rfl
  | none =>
    rw [errorMessage?_eq_none_iff.1 found] at truthy
    cases truthy

theorem bodyMessage?_of_falsy (falsy : (Json.field "error" fields).isTruthy = false) :
    bodyMessage? (.object fields) = if isMarked fields then
      some (match Json.field "error" fields with
        | .object _ => (Json.object []).literal
        | _ => markedMessage fields) else none := by
  rw [bodyMessage?_object, errorMessage?_eq_none_iff.2 falsy, Option.none_or]

theorem bodyMessage?_error (value : Json) : bodyMessage? (.object [("error", value)]) = errorMessage? value := by
  have held : Json.field "error" [("error", value)] = value := rfl
  have unmarked : isMarked [("error", value)] = false := by
    rw [isMarked]
    rfl
  rw [bodyMessage?_object, held, unmarked]
  exact Option.or_none

/-- A body is no error exactly if it is no object, or one with an empty error that is not marked as one. -/
theorem bodyMessage?_eq_none_iff {body : Json} : bodyMessage? body = none ↔
    ∀ fields, body = .object fields → (Json.field "error" fields).isTruthy = false ∧
      Json.field "type" fields ≠ .text "error" := by
  cases body with
  | object fields =>
    rw [bodyMessage?_object, Option.or_eq_none_iff, errorMessage?_eq_none_iff, ite_eq_right_iff]
    simp [isMarked_iff]
  | _ => simp [bodyMessage?]

theorem objectMessage_ne_empty (fields : Fields) : objectMessage fields ≠ "" := by
  unfold objectMessage firstTruthy Json.orElse
  split
  next truthy => exact plain_ne_empty truthy
  next =>
    split
    next truthy => exact plain_ne_empty truthy
    next => simp [Json.plain, Json.literal]

theorem markedMessage_ne_empty (fields : Fields) : markedMessage fields ≠ "" := by
  unfold markedMessage Json.orElse
  split
  next truthy => exact plain_ne_empty truthy
  next => simp [Json.plain, Json.literal]

theorem literal_list_ne_empty (items : List Json) : (Json.list items).literal ≠ "" := by
  simp [Json.literal]

theorem ne_empty_of_flat {message : String} (flat : ∀ first rest, value ≠ .list (first :: rest))
    (found : errorMessage? value = some message) : message ≠ "" := by
  have truthy : value.isTruthy = true := by
    cases empty : value.isTruthy with
    | true => rfl
    | false => rw [errorMessage?_eq_none_iff.2 empty] at found; cases found
  cases value with
  | object fields =>
    cases fields with
    | nil => cases truthy
    | cons field rest =>
      obtain rfl := Option.some.inj found
      exact objectMessage_ne_empty _
  | list items =>
    cases items with
    | nil => cases truthy
    | cons first rest => exact absurd rfl (flat first rest)
  | null | bool | number | text =>
    rw [errorMessage?, if_pos truthy] at found
    · obtain rfl := Option.some.inj found
      exact plain_ne_empty truthy
    all_goals nofun

theorem ne_empty_of_list {first : Json} {rest : List Json} {message : String}
    (within : ∀ message, bodyMessage? first = some message → message ≠ "")
    (wrapped : ∀ message, errorMessage? first = some message → message ≠ "")
    (found : errorMessage? (.list (first :: rest)) = some message) : message ≠ "" := by
  obtain rfl := Option.some.inj found
  cases body : bodyMessage? first with
  | some message => exact within message body
  | none =>
    cases error : errorMessage? first with
    | some message => exact wrapped message error
    | none => exact literal_list_ne_empty _

theorem ne_empty_of_marked {message : String}
    (under : ∀ message, errorMessage? (Json.field "error" fields) = some message → message ≠ "")
    (found : bodyMessage? (.object fields) = some message) : message ≠ "" := by
  cases truthy : (Json.field "error" fields).isTruthy with
  | true => exact under message (bodyMessage?_of_truthy truthy ▸ found)
  | false =>
    rw [bodyMessage?_of_falsy truthy] at found
    split at found
    next =>
      obtain rfl := Option.some.inj found
      split
      next => simp [Json.literal]
      next => exact markedMessage_ne_empty fields
    next => cases found

mutual

theorem ne_empty_of_errorMessage? : ∀ (value : Json) (message : String), errorMessage? value = some message → message ≠ ""
  | .list (first :: _), _, found =>
      ne_empty_of_list (ne_empty_of_bodyMessage? first) (ne_empty_of_errorMessage? first) found
  | .list [], _, found | .object _, _, found | .null, _, found | .bool _, _, found | .number _, _, found
  | .text _, _, found => ne_empty_of_flat (by nofun) found

theorem ne_empty_of_bodyMessage? : ∀ (body : Json) (message : String), bodyMessage? body = some message → message ≠ ""
  | .object fields, _, found => ne_empty_of_marked (ne_empty_of_field fields) found

theorem ne_empty_of_field : ∀ (fields : Fields) (message : String),
    errorMessage? (Json.field "error" fields) = some message → message ≠ ""
  | (key, value) :: rest, message, found => by
      by_cases same : "error" = key
      · subst same
        exact ne_empty_of_errorMessage? value message found
      · have differ : ("error" == key) = false := by simpa using same
        rw [Json.field, List.lookup_cons, differ] at found
        exact ne_empty_of_field rest message found

end

theorem Silent.eq_none {body : Json} (silent : Silent (bodyMessage? body)) : bodyMessage? body = none :=
  silent.resolve_right fun empty => ne_empty_of_bodyMessage? body "" empty rfl

theorem bodyMessage?_of_list {first : Json} {rest : List Json} (held : Json.field "error" fields = .list (first :: rest)) :
    bodyMessage? (.object fields) = some (((bodyMessage? first).or (bodyMessage? (.object [("error", first)]))).getD
      (Json.list (first :: rest)).literal) := by
  rw [bodyMessage?_of_truthy (by rw [held]; rfl), held, bodyMessage?_error, errorMessage?]
  cases bodyMessage? first with
  | none => rfl
  | some message => rfl

theorem bodyMessage?_of_object {error : Fields} (held : Json.field "error" fields = .object error)
    (said : error ≠ [] ∨ isMarked fields = true) : bodyMessage? (.object fields) = some (objectMessage error) := by
  cases error with
  | cons field others => rw [bodyMessage?_of_truthy (by rw [held]; rfl), held]; rfl
  | nil =>
    rw [bodyMessage?_of_falsy (by rw [held]; rfl), if_pos (said.resolve_left (by simp)), held]
    rfl

theorem bodyMessage?_of_plain (given : (Json.field "error" fields).isTruthy = true)
    (flat : ∀ error, Json.field "error" fields ≠ .object error) (single : ∀ items, Json.field "error" fields ≠ .list items) :
    bodyMessage? (.object fields) = some (Json.field "error" fields).plain := by
  rw [bodyMessage?_of_truthy given, errorMessage?, if_pos given]
  · exact flat
  · exact single []
  · intro first rest
    exact single (first :: rest)

theorem bodyMessage?_of_marked (empty : (Json.field "error" fields).isTruthy = false)
    (flat : ∀ error, Json.field "error" fields ≠ .object error) (marked : isMarked fields = true) :
    bodyMessage? (.object fields) = some (markedMessage fields) := by
  rw [bodyMessage?_of_falsy empty, if_pos marked]
  congr 1
  split
  next error held => exact absurd held (flat error)
  next => rfl

/-- A search comes to one message, or to none. -/
theorem Complains.unique {body : Json} {answer : Option String} (complains : Complains body answer) :
    answer = bodyMessage? body := by
  induction complains with
  | formless other =>
    refine (bodyMessage?_eq_none_iff.2 fun fields same => ?_).symm
    exact absurd same (other fields)
  | none empty unmarked => rw [bodyMessage?_of_falsy empty, unmarked]; rfl
  | described held said => exact (bodyMessage?_of_object held said).symm
  | within held _ _ ih => rw [bodyMessage?_of_list held, ← ih]; rfl
  | wrapped held _ silent _ _ ih ihToo =>
    subst ih
    rw [bodyMessage?_of_list held, silent.eq_none, ← ihToo]
    rfl
  | listed held _ silent _ silentToo ih ihToo =>
    subst ih ihToo
    rw [bodyMessage?_of_list held, silent.eq_none, silentToo.eq_none]
    rfl
  | plain given flat single => exact (bodyMessage?_of_plain given flat single).symm
  | marked empty flat marked => exact (bodyMessage?_of_marked empty flat marked).symm

theorem complains_of_list {first : Json} {rest : List Json} (held : Json.field "error" fields = .list (first :: rest))
    (body : Complains first (bodyMessage? first))
    (error : Complains (.object [("error", first)]) (bodyMessage? (.object [("error", first)]))) :
    Complains (.object fields) (bodyMessage? (.object fields)) := by
  rw [bodyMessage?_of_list held]
  cases within : bodyMessage? first with
  | some message =>
    rw [within] at body
    exact .within held body (ne_empty_of_bodyMessage? first message within)
  | none =>
    rw [within] at body
    cases wrapped : bodyMessage? (.object [("error", first)]) with
    | some message =>
      rw [wrapped] at error
      exact .wrapped held body (.inl rfl) error (ne_empty_of_bodyMessage? _ message wrapped)
    | none =>
      rw [wrapped] at error
      exact .listed held body (.inl rfl) error (.inl rfl)

theorem complains_of_flat (flat : ∀ first rest, Json.field "error" fields ≠ .list (first :: rest)) :
    Complains (.object fields) (bodyMessage? (.object fields)) := by
  by_cases structured : ∃ error, Json.field "error" fields = .object error ∧ (error ≠ [] ∨ isMarked fields = true)
  · obtain ⟨error, held, said⟩ := structured
    rw [bodyMessage?_of_object held said]
    exact .described held said
  cases given : (Json.field "error" fields).isTruthy with
  | true =>
    have loose : ∀ error, Json.field "error" fields ≠ .object error := by
      intro error held
      refine structured ⟨error, held, .inl ?_⟩
      rintro rfl
      rw [held] at given
      cases given
    have single : ∀ items, Json.field "error" fields ≠ .list items := by
      intro items held
      cases items with
      | nil => rw [held] at given; cases given
      | cons first rest => exact flat first rest held
    rw [bodyMessage?_of_plain given loose single]
    exact .plain given loose single
  | false =>
    cases marked : isMarked fields with
    | false =>
      rw [bodyMessage?_of_falsy given, marked]
      exact .none given marked
    | true =>
      have loose : ∀ error, Json.field "error" fields ≠ .object error :=
        fun error held => structured ⟨error, held, .inr marked⟩
      rw [bodyMessage?_of_marked given loose marked]
      exact .marked given loose marked

end

-- A first item that is wrapped as an error of its own makes a body no smaller than the one it comes from. What gets smaller is
-- the error, so the recursion is on it, over every body that has it.
mutual

theorem complains_error : ∀ (value : Json) (fields : Fields), Json.field "error" fields = value →
    Complains (.object fields) (bodyMessage? (.object fields))
  | .list (first :: _), _, held => complains_of_list held (complains_body first) (complains_error first _ rfl)
  | .list [], _, held | .object _, _, held | .null, _, held | .bool _, _, held | .number _, _, held
  | .text _, _, held => complains_of_flat (by rw [held]; nofun)

theorem complains_body : ∀ body : Json, Complains body (bodyMessage? body)
  | .object fields => complains_field fields fields rfl
  | .list _ | .null | .bool _ | .number _ | .text _ => .formless nofun

theorem complains_field : ∀ held fields : Fields, Json.field "error" fields = Json.field "error" held →
    Complains (.object fields) (bodyMessage? (.object fields))
  | [], fields, same => complains_of_flat (by rw [same]; nofun)
  | (key, value) :: rest, fields, held => by
      by_cases same : "error" = key
      · subst same
        exact complains_error value fields held
      · have differ : ("error" == key) = false := by simpa using same
        rw [Json.field, Json.field, List.lookup_cons, differ] at held
        exact complains_field rest fields held

end

theorem Provider.accepted_eq (provider : String) (status : Int) (body : Json) :
    Provider.accepted provider status body = if status < 400 ∧ bodyMessage? body = none then .ok body
      else .error (.transport ((bodyMessage? body).getD unexplained) (some status) provider) := by
  cases found : bodyMessage? body with
  | some message =>
    rw [accepted_of_complaint found, if_neg (by simp)]
    rfl
  | none =>
    by_cases fine : status < 400
    · rw [if_pos ⟨fine, rfl⟩, Provider.accepted, found]
      exact if_neg (by omega)
    · rw [if_neg fun both => fine both.1, Provider.accepted, found]
      exact if_pos (by omega)

/-- Complaints are found in every body, and only where there are any: each search ends in one way; a body is no error exactly
if it is no object, or one with an empty error that is not marked as one; and no message is empty. So the answer to a request
is its body exactly if the status is no error and the body does not complain. In every other case it is a failure with the
status and the provider's name. -/
theorem complaints_found :
    (∀ body answer, Complains body answer ↔ answer = bodyMessage? body) ∧
    (∀ body, bodyMessage? body = none ↔ ∀ fields, body = .object fields →
      (Json.field "error" fields).isTruthy = false ∧ Json.field "type" fields ≠ .text "error") ∧
    (∀ body message, bodyMessage? body = some message → message ≠ "") ∧
    ∀ (provider : Provider) (request : Request) (network : Network) (status : Int) (body : Json),
      network.Yields status body →
        ((provider.send request network).1 = .ok body ↔ status < 400 ∧ bodyMessage? body = none) ∧
        (¬(status < 400 ∧ bodyMessage? body = none) → (provider.send request network).1 =
          .error (.transport ((bodyMessage? body).getD unexplained) (some status) provider.adapter.name)) := by
  refine ⟨fun body answer => ⟨Complains.unique, ?_⟩, fun body => bodyMessage?_eq_none_iff, ne_empty_of_bodyMessage?, ?_⟩
  · rintro rfl
    exact complains_body body
  · intro provider request network status body yields
    rw [Provider.send_of_yields yields, Provider.accepted_eq]
    by_cases fine : status < 400 ∧ bodyMessage? body = none
    · rw [if_pos fine]
      exact ⟨iff_of_true rfl fine, fun other => absurd fine other⟩
    · rw [if_neg fine]
      exact ⟨iff_of_false nofun fine, fun _ => rfl⟩

def enclosedComplaint : Json := .object [("error", .list [.list [.object [("message", "boom")]]])]

theorem enclosedComplaint_found :
    (Network.sending 200 enclosedComplaint).Yields 200 enclosedComplaint ∧
      ¬((200 : Int) < 400 ∧ bodyMessage? enclosedComplaint = none) ∧
      ∀ (provider : Provider) (request : Request),
        (provider.send request (.sending 200 enclosedComplaint)).1 =
          .error (.transport "boom" (some 200) provider.adapter.name) := by
  have yields : (Network.sending 200 enclosedComplaint).Yields 200 enclosedComplaint :=
    Network.yields_sending 200 (by decide)
  have complains : ¬((200 : Int) < 400 ∧ bodyMessage? enclosedComplaint = none) := by decide
  refine ⟨yields, complains, fun provider request => ?_⟩
  exact (complaints_found.2.2.2 provider request _ 200 enclosedComplaint yields).2 complains

end Parley.Vendor

