import Parley.Environment

namespace Parley.CommandLine

structure Accounts where
  current : String := ""
  homes : Table String := []

/-- The home directory of a user. Nobody's is that of the user who runs the program, whose environment goes first. -/
def Accounts.home? (accounts : Accounts) (environment : Environment) (user : String) : Option String :=
  if user.isEmpty then (environment.lookup "HOME").or (accounts.homes.lookup accounts.current)
  else accounts.homes.lookup user

/-- A directory without slashes at its end; the root keeps its own. -/
def withoutSlashes (directory : String) : String :=
  let kept := (directory.toList.reverse.dropWhile (· = '/')).reverse
  if kept.isEmpty then "/" else String.ofList kept

def homeless : Failure := .foreign .runtime "Could not determine home directory."

def Accounts.expand (accounts : Accounts) (environment : Environment) (path : String) : Except Failure String :=
  match Path.isAbsolute path, Path.names path with
  | false, first :: rest =>
      match first.toList with
      | '~' :: user =>
          if user.contains '\x00' then .error .nullCharacter
          else match (accounts.home? environment (String.ofList user)).map withoutSlashes with
            | some home =>
                if home.toList.head? = some '~' then .error homeless else .ok ("/".intercalate (home :: rest))
            | none => .error homeless
      | _ => .ok path
  | _, _ => .ok path

end Parley.CommandLine

