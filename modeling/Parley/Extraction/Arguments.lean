import Parley.Json.Decoding
import Parley.Json.Writer
import Parley.Tool.Spec

namespace Parley.Extraction

/-- What stands between the parentheses of a list that reads `String(...)` and nothing else. -/
def unwrapped? (cs : List Char) : Option (List Char) :=
  match Text.afterList? "String(".toList cs with
  | some rest => if rest.getLast? = some ')' then some rest.dropLast else none
  | none => none

def isQuote (c : Char) : Bool := c = '"' || c = '\''

def quotedBody? : List Char → Option (Char × List Char)
  | quote :: rest => if isQuote quote && rest.getLast? = some quote then some (quote, rest.dropLast) else none
  | [] => none

/-- A list without the quotes around it. Between double quotes stands a JSON text where it is one; otherwise only
the quote itself is escaped. -/
def stripQuotes (cs : List Char) : List Char :=
  match quotedBody? cs with
  | none => cs
  | some (quote, body) =>
      let bare := Text.replaceList ['\\', quote] [quote] body
      if quote = '"' then
        match Json.parseList? cs with
        | some (.text text) => text.toList
        | _ => bare
      else bare

/-- The text that a written argument denotes: blanks around it, a `String(...)` wrapper and quotes do not belong
to it. -/
def unquote (cs : List Char) : List Char :=
  let bare := Text.trimList cs
  stripQuotes (((unwrapped? bare).map Text.trimList).getD bare)

/-- One argument as text. Writing a number does not fail: arguments have been decoded, and a text with an integer of too
many digits is not decoded in the first place. -/
def argumentText : Json → String
  | .text value =>
      if (unwrapped? (Text.trimList value.toList)).isSome then String.ofList (unquote value.toList) else value
  | .number value => value.text
  | value => value.render

def declaredNames (spec : Option Tool.Spec) : List String := (spec.map Tool.Spec.arguments).getD []

/-- The values of an object: first those of the declared names, in the order declared, then those of all other
keys, in the object's order. -/
def orderedValues (declared : List String) (fields : Fields) : List Json :=
  declared.filterMap (fun name => fields.lookup name) ++
    (fields.filter fun field => !declared.contains field.1).map Prod.snd

/-- The arguments that a decoded value stands for. -/
def argumentsOfValue (spec : Option Tool.Spec) : Json → List String
  | .object fields => (orderedValues (declaredNames spec) fields).map argumentText
  | .list items => items.map argumentText
  | value => [argumentText value]

/-- The arguments that a vendor's value stands for. A text that is JSON stands for what it spells, and a blank one
for no arguments; so does null. Fails for a text that is out of bounds. -/
def argumentsOf (spec : Option Tool.Spec) : Json → Except Failure (List String)
  | .null => .ok []
  | .text raw =>
      if Text.isBlankText raw then .ok []
      else do
        match ← Json.decoded? (Text.trimList raw.toList) with
        | some value => return argumentsOfValue spec value
        | none => return [argumentText (.text raw)]
  | value => .ok (argumentsOfValue spec value)

end Parley.Extraction

