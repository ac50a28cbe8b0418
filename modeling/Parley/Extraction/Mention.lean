import Parley.Extraction.Binding
import Parley.Text.Word

namespace Parley.Extraction

/-- A function's name, the blanks after it, and the text after its opening parenthesis. -/
structure Mention where
  name : List Char
  gap : List Char
  after : List Char

def mentionOf? (cs name : List Char) : Option Mention :=
  match Text.afterList? name cs with
  | none => none
  | some rest =>
      match rest.dropWhile Text.isBlank with
      | '(' :: after => some ⟨name, rest.takeWhile Text.isBlank, after⟩
      | _ => none

def Mention.head (mention : Mention) : List Char := mention.name ++ mention.gap ++ ['(']

/-- Whether a name may start after a character: not within a word, and not after a point. -/
def mayPrecede (previous : Option Char) : Bool :=
  match previous with
  | none => true
  | some c => !Text.isWord c && c ≠ '.'

/-- The mentions in a text, left to right; the search goes on after the opening parenthesis. The first argument
counts the characters of a mention that are still to be passed over. -/
def mentionsFrom (names : List (List Char)) : Nat → Option Char → List Char → List Mention
  | _, _, [] => []
  | skip + 1, _, c :: rest => mentionsFrom names skip (some c) rest
  | 0, previous, c :: rest =>
      match if mayPrecede previous then names.findSome? (mentionOf? (c :: rest)) else none with
      | some mention => mention :: mentionsFrom names (mention.head.length - 1) (some c) rest
      | none => mentionsFrom names 0 (some c) rest

/-- Longer names first, so that no name hides another that it begins. -/
def longestFirst (names : List String) : List String :=
  names.mergeSort fun left right => right.length ≤ left.length

def mentions (names : List String) (cs : List Char) : List Mention :=
  mentionsFrom ((longestFirst names).map String.toList) 0 none cs

def Mention.call (spec : Tool.Spec) (mention : Mention) : List Char × Except Misfit (List String) :=
  match enclosed? mention.after with
  | none => (mention.head, .error .unclosed)
  | some (inner, _) => (mention.head ++ inner ++ [')'], boundArguments spec inner)

end Parley.Extraction

