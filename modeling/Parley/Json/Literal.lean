import Parley.Json.Basic
import Parley.Text.Quoted

namespace Parley.Json

mutual

def literal : Json → String
  | .null => "None"
  | .bool true => "True"
  | .bool false => "False"
  | .number value => value.text
  | .text value => Text.quoted value
  | .list items => "[" ++ ", ".intercalate (literalItems items) ++ "]"
  | .object fields => "\x7b" ++ ", ".intercalate (literalFields fields) ++ "\x7d"

def literalItems : List Json → List String
  | [] => []
  | item :: rest => literal item :: literalItems rest

def literalFields : List (String × Json) → List String
  | [] => []
  | (key, value) :: rest => (Text.quoted key ++ ": " ++ literal value) :: literalFields rest

end

mutual

def integers : Json → List Int
  | .number (.int value) => [value]
  | .list items => integersOfItems items
  | .object fields => integersOfFields fields
  | _ => []

def integersOfItems : List Json → List Int
  | [] => []
  | item :: rest => integers item ++ integersOfItems rest

def integersOfFields : List (String × Json) → List Int
  | [] => []
  | (_, value) :: rest => integers value ++ integersOfFields rest

end

def plain : Json → String
  | .text value => value
  | value => literal value

end Parley.Json

