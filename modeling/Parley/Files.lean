import Parley.Failure

/-!
Files as a run finds them. A path is followed name by name from the root or the working directory; every name on the
way has to be a directory's, and two points lead one directory up.
-/

namespace Parley

inductive Entry where
  | file (text : String)
  | directory
  /-- Something else, such as a device. It reads as an empty text. -/
  | device
  deriving DecidableEq, Repr

namespace Path

/-- The names of a path. Empty ones and those of one point do not count. -/
def names (path : String) : List String := (Text.split '/' path).filter fun name => !name.isEmpty && name ≠ "."

def isAbsolute (path : String) : Bool := path.toList.head? = some '/'

def tidy (path : String) : String := (if isAbsolute path then "/" else "") ++ "/".intercalate (names path)

def nameLimit : Nat := 255

def pathLimit : Nat := 4095

def tooLong : Failure := .foreign .system "File name too long"

/-- The names on the way from the root to a place, the last one first. -/
abbrev Place := List String

/-- One name further, which leads back if it is two points. -/
def step (place : Place) (name : String) : Place := if name = ".." then place.tail else name :: place

def toPlace (place : Place) : String := "/" ++ "/".intercalate place.reverse

end Path

/-- What is there, by path, and where paths start. -/
structure Files where
  /-- The working directory. -/
  directory : String := "/"
  entries : Table Entry := []

namespace Files

def start (files : Files) (path : String) : Path.Place :=
  if Path.isAbsolute path then [] else (Path.names files.directory).foldl Path.step []

/-- The place that a path names, whether or not there is anything. -/
def place (files : Files) (path : String) : Path.Place := (Path.names path).foldl Path.step (files.start path)

def fullPath (files : Files) (path : String) : String := Path.toPlace (files.place path)

/-- What is at a place. The working directory and all directories on the way to a known entry are there, too. -/
def entryAt? (files : Files) (place : Path.Place) : Option Entry :=
  match files.entries.find? fun entry => files.place entry.1 = place with
  | some (_, entry) => some entry
  | none =>
      if place.isSuffixOf (files.place "") || files.entries.any fun entry => place.isSuffixOf (files.place entry.1) then
        some .directory
      else none

def follow (files : Files) (place : Path.Place) : List String → Except Failure (Option Entry)
  | [] => .ok (files.entryAt? place)
  | name :: rest =>
      if files.entryAt? place = some .directory then
        if Path.nameLimit < name.utf8ByteSize then .error Path.tooLong
        else files.follow (Path.step place name) rest
      else .ok none

def find (files : Files) (path : String) : Except Failure (Option Entry) :=
  if path.toList.contains '\x00' then .ok none
  else if Path.pathLimit < (Path.tidy path).utf8ByteSize then .error Path.tooLong
  else files.follow (files.start path) (Path.names path)

/-- The text of what a path leads to, if that is a file. Every line ending is read as a line feed. -/
def text? (files : Files) (path : String) : Except Failure (Option String) := do
  match ← files.find path with
  | some (.file text) => return some (Text.unifyNewlines text)
  | _ => return none

theorem follow_nil (files : Files) (place : Path.Place) : files.follow place [] = .ok (files.entryAt? place) := rfl

end Files

end Parley

