import Parley.CommandLine.Program

/-!
The program at work: it gathers what a run needs to know, prints what the run comes to, and exits. It has no network
of its own, so that every vendor is out of reach.
-/

namespace Parley.CommandLine

def currentEnvironment : IO Environment :=
  ("HOME" :: Vendor.settingVariables).filterMapM fun name => do
    return (← IO.getEnv name).map fun value => (name, value)

def currentEntries (paths : List String) : IO (Table Entry) :=
  paths.filterMapM fun (path : String) => do
    try return some (path, Entry.file (← IO.FS.readFile path))
    catch _ => return none

def Job.functions : Job → Option Content
  | .listFunctions functions => functions
  | .ask choices _ => choices.functions
  | .chat choices => choices.functions

def Job.system : Job → Option Content
  | .listFunctions _ => none
  | .ask choices _ => some choices.system
  | .chat choices => some choices.system

def Job.paths (job : Job) (environment : Environment) : List String :=
  let declarations :=
    (job.functions.bind Content.spoken?).bind fun path => (({} : Accounts).expand environment path).toOption
  ".env" :: (job.system.bind Content.spoken?).toList ++ declarations.toList

def Job.input : Job → IO (List Read)
  | .chat _ => do return readsOf (← (← IO.getStdin).readToEnd)
  | _ => return []

def currentFiles (job : Option Job) (environment : Environment) : IO Files := do
  let directory := (← IO.currentDir).toString
  let known : Files := ⟨directory, ← currentEntries [".env"]⟩
  let later := (environment.loadDefault known).toOption.getD environment
  return ⟨directory, ← currentEntries (job.toList.flatMap fun job => job.paths environment ++ job.paths later)⟩

def execute (arguments : List String) : IO UInt32 := do
  let job := job? arguments
  let environment ← currentEnvironment
  let outcome := run {
    files := ← currentFiles job environment
    environment := environment
    input := ← (job.map Job.input).getD (return []) } arguments
  match outcome with
  | .misused =>
      IO.eprintln "usage: parley list-functions | ask --prompt TEXT | chat, with options"
      return 2
  | .ended exit output errors _ _ =>
      IO.print (printed output)
      IO.eprint (printed errors)
      return exit.toUInt32
  | .crashed failure _ =>
      IO.eprintln (failure.className ++ ": " ++ failure.message)
      return 1

end Parley.CommandLine

def main (arguments : List String) : IO UInt32 := Parley.CommandLine.execute arguments

