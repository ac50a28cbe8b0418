import Parley.Failure
import Parley.Text.Numeral

namespace Parley.Vendor

def misshapen (provider what wanted : String) (value : Json) : Failure :=
  .malformed provider s!"{what} should be {wanted}, got {value.kindName}"

def expectText (provider what : String) : Json → Except Failure String
  | .text value => .ok value
  | value => .error (misshapen provider what "str" value)

def expectList (provider what : String) : Json → Except Failure (List Json)
  | .list items => .ok items
  | value => .error (misshapen provider what "list" value)

def expectObject (provider what : String) : Json → Except Failure Fields
  | .object fields => .ok fields
  | value => .error (misshapen provider what "dict" value)

/-- A field that may be missing or empty, and is a text otherwise. -/
def optionalText (provider what key : String) (fields : Fields) : Except Failure String :=
  expectText provider what ((Json.field key fields).orElse (.text ""))

def optionalList (provider what key : String) (fields : Fields) : Except Failure (List Json) :=
  expectList provider what ((Json.field key fields).orElse (.list []))

def optionalObject (provider what key : String) (fields : Fields) : Except Failure Fields :=
  expectObject provider what ((Json.field key fields).orElse (.object []))

/-- A field that may be missing, and is a text otherwise. -/
def presentText (provider what key : String) (fields : Fields) : Except Failure String :=
  expectText provider what ((fields.lookup key).getD (.text ""))

def objectsOf (items : List Json) : List Fields :=
  items.filterMap fun
    | .object fields => some fields
    | _ => none

def looseText (value : Json) : String := if value.isTruthy then value.plain else ""

/-- A token count, zero for everything that is not a number. An infinite one cannot be counted. -/
def count : Json → Except Failure Int
  | .bool true => .ok 1
  | .number (.int value) => .ok value
  | .number (.float value) =>
      match truncate? value with
      | some whole => .ok whole
      | none =>
          if value.isNaN then .ok 0
          else .error (.foreign .overflow "cannot convert float infinity to integer")
  | .text value => .ok ((Text.readInt? value).getD 0)
  | _ => .ok 0

def isText (expected : String) : Json → Bool
  | .text value => value = expected
  | _ => false

end Parley.Vendor

