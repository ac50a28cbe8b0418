import Parley.Text.Search
import Parley.Tool.Spec

/-!
Function declarations as text. A declaration is a block of `//` comments followed by a signature: first the lines
that describe the function, then one line `name: text` for each argument in order, then `fn name(arg, ...)`. A
star before an argument marks it as optional.
-/

namespace Parley.Tool

def isDeclaredNameChar (c : Char) : Bool :=
  ('A' ≤ c && c ≤ 'Z') || ('a' ≤ c && c ≤ 'z') || Text.isAsciiDigit c || c = '_'

def isDeclaredName (cs : List Char) : Bool := !cs.isEmpty && cs.all isDeclaredNameChar

def dropStar : List Char → List Char
  | '*' :: rest => rest
  | cs => cs

def dropBlanks (cs : List Char) : List Char := cs.dropWhile Text.isBlank

def dropOneBlank : List Char → List Char
  | [] => []
  | c :: rest => if Text.isBlank c then rest else c :: rest

/-- The text of a comment line: what follows two or three slashes and at most one blank, up to the last character
that is not blank. -/
def commentText? (line : List Char) : Option (List Char) :=
  match dropBlanks line with
  | '/' :: '/' :: '/' :: rest => some (Text.trimEndList (dropOneBlank rest))
  | '/' :: '/' :: rest => some (Text.trimEndList (dropOneBlank rest))
  | _ => none

def argumentComment? (text : List Char) : Option (String × String) :=
  let name := (dropStar text).takeWhile isDeclaredNameChar
  match name, dropBlanks ((dropStar text).dropWhile isDeclaredNameChar) with
  | [], _ => none
  | name, ':' :: rest => some (String.ofList name, String.ofList (Text.trimList rest))
  | _, _ => none

def bareSignature? (cs : List Char) : Option (String × List Char) :=
  let name := cs.takeWhile isDeclaredNameChar
  match name, dropBlanks (cs.dropWhile isDeclaredNameChar) with
  | [], _ => none
  | name, '(' :: rest =>
      let isOther := fun c => c ≠ '(' && c ≠ ')'
      match rest.dropWhile isOther with
      | ')' :: tail =>
          if dropBlanks tail = [] || (dropBlanks tail).head? = some ';' && (dropBlanks tail).tail.all Text.isBlank
          then some (String.ofList name, rest.takeWhile isOther)
          else none
      | _ => none
  | _, _ => none

/-- What follows the word `fn` and at least one blank. -/
def afterKeyword? : List Char → Option (List Char)
  | 'f' :: 'n' :: c :: rest => if Text.isBlank c then some (dropBlanks rest) else none
  | _ => none

/-- The name and the text between the parentheses of a signature line. The word `fn` before the name may be
missing. -/
def signature? (line : List Char) : Option (String × List Char) :=
  let cs := dropBlanks line
  match (afterKeyword? cs).bind bareSignature? with
  | some found => some found
  | none => bareSignature? cs

/-- The lines of a declaration read so far: all of them, those that describe the function, and those that describe
its arguments. -/
structure Draft where
  block : List String := []
  description : List String := []
  arguments : List (String × String) := []

def Draft.fail {α : Type} (draft : Draft) (issue : String) : Except Failure α :=
  .error (.declaration ("\n".intercalate draft.block) issue)

def Draft.comment (draft : Draft) (text : List Char) : Except Failure Draft :=
  match argumentComment? text with
  | some argument => .ok { draft with arguments := draft.arguments ++ [argument] }
  | none =>
      if !draft.arguments.isEmpty then draft.fail "Description lines must come before argument lines"
      else if text.isEmpty then .ok draft
      else .ok { draft with description := draft.description ++ [String.ofList text] }

def signatureNames (inner : List Char) : List (List Char) :=
  if inner.all Text.isBlank then [] else (Text.splitList ',' inner).map Text.trimList

def Draft.complete (draft : Draft) (name : String) (inner : List Char) : Except Failure Spec := do
  let written := signatureNames inner
  match written.find? fun word => !isDeclaredName (dropStar word) with
  | some word => draft.fail s!"Invalid argument name '{String.ofList word}'"
  | none =>
      let arguments := written.map fun word => String.ofList (dropStar word)
      let optional := (written.filter fun word => word.head? = some '*').map fun word => String.ofList (dropStar word)
      if draft.description.isEmpty then draft.fail s!"Function '{name}' has no description"
      else
        let commented := draft.arguments.map Prod.fst
        if arguments ≠ commented then
          draft.fail
            s!"Argument names do not match: signature has {Text.quotedList arguments}, comments have {Text.quotedList commented}"
        else
          let spec : Spec := {
            name := name
            arguments := arguments
            description := " ".intercalate draft.description
            argumentTexts := Table.ofEntries draft.arguments
            optional := optional }
          match spec.checked with
          | .ok spec => .ok spec
          | .error failure => draft.fail failure.message

def declarationsFrom (draft : Draft) : List String → Except Failure (List Spec)
  | [] => if draft.block.isEmpty then .ok [] else draft.fail "Comments without a function signature"
  | line :: rest =>
      if Text.isBlankText line then declarationsFrom draft rest
      else do
        let draft := { draft with block := draft.block ++ [line] }
        match commentText? line.toList with
        | some text => declarationsFrom (← draft.comment text) rest
        | none =>
            match signature? line.toList with
            | none => draft.fail s!"Unrecognised line: {Text.trim line}"
            | some (name, inner) => do
                let spec ← draft.complete name inner
                return spec :: (← declarationsFrom {} rest)

def declarations (text : String) : Except Failure (List Spec) := declarationsFrom {} (Text.lines text)

def Spec.declaration (spec : Spec) : List String :=
  ("// " ++ spec.description) ::
    spec.arguments.map (fun argument => "// " ++ argument ++ ": " ++ spec.argumentText argument) ++
    ["fn " ++ spec.signature]

end Parley.Tool

