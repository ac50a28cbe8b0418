import Parley.CommandLine.Chat
import Parley.CommandLine.Demo
import Parley.CommandLine.Home
import Parley.CommandLine.Options
import Parley.Vendor.Catalogue

namespace Parley.CommandLine

structure Surroundings where
  files : Files := {}
  environment : Environment := []
  accounts : Accounts := {}
  input : List Read := []
  network : Network := {}

inductive Outcome where
  | misused
  /-- The job was done, or a failure was reported that the user can mend. -/
  | ended (exit : Nat) (output errors : List String) (network : Network) (journal : Journal)
  /-- Something failed that the program does not report. -/
  | crashed (failure : Failure) (journal : Journal)

/-- What a job has done by its end, or by the failure that broke it off. -/
structure Work where
  exit : Except Failure Nat
  printed : List String := []
  network : Network
  journal : Journal := []

namespace Surroundings

def noPath : Failure := .foreign .wrongType "expected str, bytes or os.PathLike object, not list"

/-- The text of a file that must be there, its path with a home directory put in where it asks for one. -/
def textOf (surroundings : Surroundings) (path : String) : Except Failure String := do
  let path ← surroundings.accounts.expand surroundings.environment path
  if path.toList.contains '\x00' then throw .nullCharacter
  let full := surroundings.files.fullPath path
  match ← surroundings.files.find full with
  | some (.file text) => return Text.unifyNewlines text
  | some .device => return ""
  | some .directory => throw (.foreign .directory s!"Is a directory: {Text.quoted full}")
  | none => throw (.foreign .missingFile s!"Function declaration file not found: {full}")

def toolbox (surroundings : Surroundings) (functions : Option Content) : Except Failure Toolbox := do
  let declarations ←
    match functions with
    | none => pure demoDeclarations
    | some (.text path) => surroundings.textOf path
    | some .nothing => throw noPath
  Toolbox.ofDeclarations declarations demoBehaviours

def filedPersona (surroundings : Surroundings) : Content → Except Failure String
  | .text path => do return Text.trim ((← surroundings.files.text? path).getD "")
  | .nothing => .error noPath

def persona (surroundings : Surroundings) (choices : Choices) : Except Failure (Option String) := do
  match choices.systemPrompt.bind Content.spoken? with
  | some prompt => return some prompt
  | none => return (Content.text (← surroundings.filedPersona choices.system)).spoken?

def provider (surroundings : Surroundings) (choices : Choices) : Except Failure Vendor.Provider :=
  match choices.provider with
  | .text name =>
      Vendor.Provider.ofVendor surroundings.environment surroundings.files name (choices.model.bind Content.spoken?) none
        [.temperature choices.temperature, .maxTokens choices.maxTokens, .timeout choices.timeout]
  | .nothing => .error (.foreign .missingAttribute "'list' object has no attribute 'strip'")

/-- The surroundings with the variables that the working directory's own file adds. -/
def loaded (surroundings : Surroundings) : Except Failure Surroundings := do
  return { surroundings with environment := ← surroundings.environment.loadDefault surroundings.files }

def assistant (surroundings : Surroundings) (choices : Choices) : Except Failure Assistant := do
  let provider ← surroundings.provider choices
  let surroundings ← surroundings.loaded
  let persona ← surroundings.persona choices
  let toolbox ← surroundings.toolbox choices.functions
  return .ofProvider provider toolbox {
    systemPrompt := persona
    offerFunctions := !choices.noFunctions
    verbose := choices.verbose }

end Surroundings

def listing (spec : Tool.Spec) : List String :=
  s!"- {spec.signature}: {spec.description}" ::
    spec.arguments.map fun argument => s!"    {argument}: " ++ (spec.argumentTexts.lookup argument).getD ""

def Surroundings.undone (surroundings : Surroundings) (failure : Failure) : Work where
  exit := .error failure
  network := surroundings.network

def listFunctions (surroundings : Surroundings) (functions : Option Content) : Work :=
  match surroundings.toolbox functions with
  | .error failure => surroundings.undone failure
  | .ok toolbox => { exit := .ok 0, printed := toolbox.specs.flatMap listing, network := surroundings.network }

def ask (surroundings : Surroundings) (choices : Choices) (prompt : Content) : Work :=
  match surroundings.assistant choices with
  | .error failure => surroundings.undone failure
  | .ok assistant =>
      let report := assistant.send {} prompt surroundings.network
      let answer : Except Failure (Nat × List String) := do
        let result ← report.result
        return (if result.ok then 0 else 1, result.text :: (← footer result))
      { exit := answer.map Prod.fst
        printed := report.shown ++ (answer.toOption.map Prod.snd).getD []
        network := report.network
        journal := report.journal }

def chat (surroundings : Surroundings) (choices : Choices) : Work :=
  match surroundings.assistant choices with
  | .error failure => surroundings.undone failure
  | .ok assistant =>
      let (chat, failure) := Chat.whole assistant surroundings.input surroundings.network
      { exit := (failure.map Except.error).getD (.ok 0)
        printed := chat.printed
        network := chat.network
        journal := chat.journal }

def complaint? : Failure → Option String
  | .foreign .missingFile text => some ("Error: " ++ text)
  | .configuration provider missing setting => some (Failure.configuration provider missing setting).message
  | .declaration declaration issue => some (Failure.declaration declaration issue).message
  | .unknownFunction name available => some (Failure.unknownFunction name available).message
  | _ => none

def Job.run (surroundings : Surroundings) : Job → Work
  | .listFunctions functions => CommandLine.listFunctions surroundings functions
  | .ask choices prompt => CommandLine.ask surroundings choices prompt
  | .chat choices => CommandLine.chat surroundings choices

def Work.outcome (work : Work) : Outcome :=
  match work.exit with
  | .ok exit => .ended exit work.printed [] work.network work.journal
  | .error failure =>
      match complaint? failure with
      | some text => .ended 2 work.printed [text] work.network work.journal
      | none => .crashed failure work.journal

def run (surroundings : Surroundings) (arguments : List String) : Outcome :=
  match job? arguments with
  | none => .misused
  | some job => (job.run surroundings).outcome

def printed (lines : List String) : String := String.join (lines.map (· ++ "\n"))

end Parley.CommandLine

