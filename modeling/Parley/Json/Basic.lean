import Parley.Number
import Parley.Table

namespace Parley

inductive Json where
  | null
  | bool (value : Bool)
  | number (value : Number)
  | text (value : String)
  | list (items : List Json)
  | object (fields : List (String × Json))
  deriving Repr, Inhabited

abbrev Fields := Table Json

namespace Json

instance : Coe String Json := ⟨.text⟩
instance : Coe Bool Json := ⟨.bool⟩
instance : Coe Number Json := ⟨.number⟩

def int (value : Int) : Json := .number (.int value)

def texts (values : List String) : Json := .list (values.map .text)

/-- What a field of an object holds; null where there is no such field. -/
def field (key : String) (fields : Fields) : Json := (fields.lookup key).getD .null

/-- Nothing, false, zero and everything empty are not truthy. -/
def isTruthy : Json → Bool
  | null => false
  | bool value => value
  | number value => !value.isZero
  | text value => !value.isEmpty
  | list items => !items.isEmpty
  | object fields => !fields.isEmpty

def orElse (value alternative : Json) : Json := if value.isTruthy then value else alternative

def kindName : Json → String
  | null => "NoneType"
  | bool _ => "bool"
  | number (.int _) => "int"
  | number (.float _) => "float"
  | text _ => "str"
  | list _ => "list"
  | object _ => "dict"

end Json

end Parley

