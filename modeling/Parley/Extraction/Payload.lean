import Parley.Extraction.Arguments

/-!
Calls written as JSON within a text: every block of balanced braces is a candidate, in the order of the opening
braces, and one that is an object with a name and arguments is a call. One that is out of bounds is a failure.
-/

namespace Parley.Extraction

/-- The shortest piece at the end of which all braces are closed, given how many are open besides one. -/
def closeBraces (depth : Nat) : List Char → Option (List Char)
  | [] => none
  | c :: rest =>
      if c = '\x7b' then (closeBraces (depth + 1) rest).map (c :: ·)
      else if c = '\x7d' then
        match depth with
        | 0 => some [c]
        | depth + 1 => (closeBraces depth rest).map (c :: ·)
      else (closeBraces depth rest).map (c :: ·)

def blockAt? : List Char → Option (List Char)
  | [] => none
  | c :: rest => if c = '\x7b' then (closeBraces 0 rest).map (c :: ·) else none

def braceBlocks : List Char → List (List Char)
  | [] => []
  | c :: rest => (blockAt? (c :: rest)).toList ++ braceBlocks rest

/-- The ways in which a block is read as JSON: as it stands, with double quotes for single ones, and with its line
feeds escaped. -/
def readings (block : List Char) : List (List Char) :=
  [block, block.map fun c => if c = '\'' then '"' else c,
    block.flatMap fun c => if c = '\n' then ['\\', 'n'] else [c]]

/-- The object that a block spells, by the first reading that is JSON. -/
def payload? (block : List Char) : Except Failure (Option Fields) := do
  match ← (readings block).findSomeM? Json.decoded? with
  | some (.object fields) => return some fields
  | _ => return none

def nameKeys : List String := ["name", "function", "tool_name", "tool"]

def argumentKeys : List String := ["arguments", "parameters", "args", "params", "input"]

def rawArguments (fields : Fields) : Json := (argumentKeys.findSome? fun key => fields.lookup key).getD .null

/-- Whether a value can stand under a name key: an object, within which the name is looked for, or a name. -/
def namesCall : Json → Bool
  | .object _ => true
  | .text name => !name.isEmpty
  | _ => false

def nameKey? (fields : Fields) : Option String :=
  nameKeys.find? fun key => namesCall (Json.field key fields)

mutual

def describedCall? : Json → Option (String × Json)
  | .object fields => (nameKey? fields).bind fun key => callUnder? key (rawArguments fields) fields
  | _ => none

def callUnder? (key : String) (arguments : Json) : List (String × Json) → Option (String × Json)
  | [] => none
  | (name, value) :: rest =>
      if name = key then
        match value with
        | .text function => some (function, arguments)
        | .object fields => describedCall? (.object fields)
        | _ => none
      else callUnder? key arguments rest

end

/-- Whether a block is longer than allowed; a limit of zero allows any length. -/
def isTooLong (limit : Int) (block : List Char) : Bool := limit ≠ 0 && limit < block.length

def writtenCall? (limit : Int) (block : List Char) : Except Failure (Option (String × Json)) :=
  if isTooLong limit block then .ok none
  else (payload? block).map fun payload => payload.bind fun fields => describedCall? (.object fields)

end Parley.Extraction

