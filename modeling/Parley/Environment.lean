import Parley.Files
import Parley.Text.Search

namespace Parley

abbrev Environment := Table String

namespace Environment

/-- The value of a variable that is set and not empty. -/
def value? (environment : Environment) (name : String) : Option String :=
  (environment.lookup name).filter fun value => !value.isEmpty

def isValueQuote (c : Char) : Bool := c = '\'' || c = '"'

/-- What follows the word `export` and one space, or all of a line that does not start so. -/
def withoutExport (line : List Char) : List Char := (Text.afterList? "export ".toList line).getD line

/-- The key and the value that a line defines. Blank lines, comments and lines without an equals sign define none;
blanks, and then quotes, around the value do not belong to it. -/
def definition? (line : String) : Option (String × String) :=
  let trimmed := Text.trimList line.toList
  if trimmed.isEmpty || trimmed.head? = some '#' then none
  else
    (Text.cutList? '=' (withoutExport trimmed)).map fun (key, value) =>
      (String.ofList (Text.trimList key), String.ofList (Text.trimBy isValueQuote (Text.trimList value)))

/-- Neither the key nor the value of a variable can hold the null character. -/
def isStorable (entry : String × String) : Bool := !(entry.1.toList ++ entry.2.toList).contains '\x00'

/-- Adds a variable unless its key is empty or set already. -/
def define (environment : Environment) (entry : String × String) : Except Failure Environment :=
  if entry.1.isEmpty || (environment.lookup entry.1).isSome then .ok environment
  else if isStorable entry then .ok (environment ++ [entry])
  else .error .nullCharacter

def load (environment : Environment) (text : String) : Except Failure Environment :=
  ((Text.lines text).filterMap definition?).foldlM define environment

def loadFirst (environment : Environment) (files : Files) (paths : List String) : Except Failure Environment := do
  match ← paths.findSomeM? files.text? with
  | some text => environment.load text
  | none => return environment

/-- Adds what the working directory's own file defines. The library looks for a second file, in the directory above its own
sources; that one is left out, as if it were never there. -/
def loadDefault (environment : Environment) (files : Files) : Except Failure Environment :=
  environment.loadFirst files [".env"]

end Environment

end Parley

