import Parley.Json.Literal

namespace Parley.Vendor

def firstTruthy (first second third : Json) : Json := first.orElse (second.orElse third)

/-- The message of an error object: its message, its type, or all of it. -/
def objectMessage (fields : Fields) : String :=
  (firstTruthy (Json.field "message" fields) (Json.field "type" fields) (.object fields)).plain

/-- The message of an object marked as an error that names none: its own message, or all of it. -/
def markedMessage (fields : Fields) : String :=
  ((Json.field "message" fields).orElse (.object fields)).plain

def isMarked (fields : Fields) : Bool :=
  match Json.field "type" fields with
  | .text kind => kind = "error"
  | _ => false

mutual

/-- The message of a value that stands under the key `error`; nothing and everything empty is no error. -/
def errorMessage? : Json → Option String
  | .object fields => if fields.isEmpty then none else some (objectMessage fields)
  | .list [] => none
  | .list (first :: rest) =>
      some (((bodyMessage? first).orElse fun _ => errorMessage? first).getD (Json.list (first :: rest)).literal)
  | value => if value.isTruthy then some value.plain else none

/-- The error message in a vendor body, or nothing where the body is no error. An object may be marked as an error
by its type. -/
def bodyMessage? : Json → Option String
  | .object fields =>
      match fieldMessage? fields with
      | some message => some message
      | none =>
          if isMarked fields then
            some (match Json.field "error" fields with
              | .object _ => (Json.object []).literal
              | _ => markedMessage fields)
          else none
  | _ => none

def fieldMessage? : List (String × Json) → Option String
  | [] => none
  | (key, value) :: rest => if key = "error" then errorMessage? value else fieldMessage? rest

end

end Parley.Vendor

