import Parley.Json.Basic
import Parley.Json.Units

namespace Parley.Json

def writtenUnit (unit : Nat) : List Char := '\\' :: 'u' :: Text.hexDigits 4 unit

def writtenChar (c : Char) : List Char :=
  if c = '"' then ['\\', '"']
  else if c = '\\' then ['\\', '\\']
  else if c = '\n' then ['\\', 'n']
  else if c = '\r' then ['\\', 'r']
  else if c = '\t' then ['\\', 't']
  else if c = '\x08' then ['\\', 'b']
  else if c = '\x0C' then ['\\', 'f']
  else if ' ' ≤ c && c ≤ '~' then [c]
  else (unitsOfChar c).flatMap writtenUnit

def writtenText (text : String) : List Char := '"' :: text.toList.flatMap writtenChar ++ ['"']

mutual

def written : Json → List Char
  | .null => "null".toList
  | .bool true => "true".toList
  | .bool false => "false".toList
  | .number value => (value.written .wire).toList
  | .text value => writtenText value
  | .list [] => ['[', ']']
  | .list (item :: rest) => '[' :: written item ++ writtenItems rest
  | .object [] => ['\x7b', '\x7d']
  | .object ((key, value) :: rest) => '\x7b' :: writtenText key ++ ':' :: ' ' :: written value ++ writtenFields rest

def writtenItems : List Json → List Char
  | [] => [']']
  | item :: rest => ',' :: ' ' :: written item ++ writtenItems rest

def writtenFields : List (String × Json) → List Char
  | [] => ['\x7d']
  | (key, value) :: rest => ',' :: ' ' :: writtenText key ++ ':' :: ' ' :: written value ++ writtenFields rest

end

def render (value : Json) : String := String.ofList (written value)

def renderText (text : String) : String := String.ofList (writtenText text)

end Parley.Json

