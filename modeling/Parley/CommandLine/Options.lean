import Parley.Content
import Parley.Text.Numeral

/-!
The arguments of the command line. The first one is a command; the options that follow may be abbreviated as long
as they stay unambiguous, and take their values from the next argument or from behind an equals sign. Two minus signs
behind an equals sign give an option nothing.
-/

namespace Parley.CommandLine

inductive Command where
  | listFunctions
  | ask
  | chat
  deriving DecidableEq, Repr

def commands : Table Command := [("list-functions", .listFunctions), ("ask", .ask), ("chat", .chat)]

inductive Setting where
  | provider
  | model
  | temperature
  | maxTokens
  | timeout
  | system
  | systemPrompt
  | functions
  | prompt
  deriving DecidableEq, Repr

inductive Switch where
  | help
  | noFunctions
  | verbose
  deriving DecidableEq, Repr

inductive Flag where
  | setting (setting : Setting)
  | switch (switch : Switch)
  deriving DecidableEq, Repr

def helpFlags : Table Flag := [("-h", .switch .help), ("--help", .switch .help)]

def commonFlags : Table Flag :=
  [("--provider", .setting .provider), ("--model", .setting .model), ("--temperature", .setting .temperature),
    ("--max-tokens", .setting .maxTokens), ("--timeout", .setting .timeout), ("--system", .setting .system),
    ("--system-prompt", .setting .systemPrompt), ("--functions", .setting .functions),
    ("--no-functions", .switch .noFunctions), ("--verbose", .switch .verbose)]

def Command.flags : Command → Table Flag
  | .listFunctions => helpFlags ++ [("--functions", .setting .functions)]
  | .ask => helpFlags ++ commonFlags ++ [("--prompt", .setting .prompt)]
  | .chat => helpFlags ++ commonFlags

inductive Word where
  | plain
  | separator
  | flag (flag : Flag) (value : Option String)
  | unknown
  | ambiguous

def withoutLineFeed (cs : List Char) : List Char := if cs.getLast? = some '\n' then cs.dropLast else cs

/-- Whether a list is a minus sign and a number, with or without a fraction. One line feed may follow. -/
def isNegativeNumber (cs : List Char) : Bool :=
  let isDigit := fun c => (Text.digitValue? c).isSome
  match withoutLineFeed cs with
  | '-' :: rest =>
      match rest.dropWhile isDigit with
      | [] => !rest.isEmpty
      | '.' :: fraction => !fraction.isEmpty && fraction.all isDigit
      | _ => false
  | _ => false

/-- The options that a word abbreviates. A word that starts with a single minus is an option of one letter with its
value behind it. -/
def abbreviated (flags : Table Flag) (word : List Char) (value : Option String) : List Word :=
  match word with
  | '-' :: '-' :: _ =>
      (flags.filter fun entry => word.isPrefixOf entry.1.toList).map fun entry => .flag entry.2 value
  | _ =>
      (flags.filter fun entry => entry.1.toList = word.take 2).map fun entry =>
        .flag entry.2 (some (String.ofList (word.drop 2)))

def classify (flags : Table Flag) (argument : String) : Word :=
  let word := argument.toList
  if word = ['-', '-'] then .separator
  else if word.head? ≠ some '-' || word.length = 1 then .plain
  else match flags.lookup argument with
    | some flag => .flag flag none
    | none =>
        let (key, value) := match Text.cutList? '=' word with
          | some (key, value) => (key, some (String.ofList value))
          | none => (word, none)
        match value.bind fun _ => flags.lookup (String.ofList key) with
        | some flag => .flag flag value
        | none =>
            let long := ['-', '-'].isPrefixOf word
            match abbreviated flags (if long then key else word) (if long then value else none) with
            | [found] => found
            | _ :: _ => .ambiguous
            | [] => if isNegativeNumber word || word.contains ' ' then .plain else .unknown

structure Given where
  settings : List (Setting × Content) := []
  switches : List Switch := []

def Given.set (given : Given) (setting : Setting) (value : Content) : Given :=
  { given with settings := given.settings ++ [(setting, value)] }

def attached (value : String) : Content := if value = "--" then .nothing else .text value

def collect (flags : Table Flag) (given : Given) : List String → Option Given
  | [] => some given
  | argument :: rest =>
      match classify flags argument with
      | .flag (.switch switch) none => collect flags { given with switches := given.switches ++ [switch] } rest
      | .flag (.setting setting) (some value) => collect flags (given.set setting (attached value)) rest
      | .flag (.setting setting) none =>
          match rest with
          | value :: rest =>
              match classify flags value with
              | .plain => collect flags (given.set setting (.text value)) rest
              | _ => none
          | [] => none
      | _ => none

def Given.value? (given : Given) (setting : Setting) : Option Content :=
  (given.settings.reverse.find? fun entry => entry.1 = setting).map Prod.snd

/-- The number that a content spells for a reader that may refuse it. Nothing is left as it is. -/
def numberOf? (reader : String → Option Number) : Content → Option Json
  | .text value => (reader value).map Json.number
  | .nothing => some Content.nothing.asJson

/-- The number given last for a setting, where the reader takes every one that is given; the default if none is. -/
def Given.number? (given : Given) (setting : Setting) (reader : String → Option Number) (default : Number) :
    Option Json :=
  (given.settings.filter fun entry => entry.1 = setting).foldlM (fun _ entry => numberOf? reader entry.2)
    (.number default)

def readReal? (text : String) : Option Number := (Text.readFloat? text).map Number.float

def readWhole? (text : String) : Option Number := (Text.readInt? text).map Number.int

structure Choices where
  provider : Content := .text "gemini"
  model : Option Content := none
  temperature : Json := .number (.float 0.2)
  maxTokens : Json := .int 4096
  timeout : Json := .number (.float 120.0)
  system : Content := .text "system.txt"
  systemPrompt : Option Content := none
  functions : Option Content := none
  noFunctions : Bool := false
  verbose : Bool := false

inductive Job where
  | listFunctions (functions : Option Content)
  | ask (choices : Choices) (prompt : Content)
  | chat (choices : Choices)

def Given.choices? (given : Given) : Option Choices := do
  let temperature ← given.number? .temperature readReal? (.float 0.2)
  let maxTokens ← given.number? .maxTokens readWhole? (.int 4096)
  let timeout ← given.number? .timeout readReal? (.float 120.0)
  return {
    provider := (given.value? .provider).getD (.text "gemini")
    model := given.value? .model
    temperature := temperature
    maxTokens := maxTokens
    timeout := timeout
    system := (given.value? .system).getD (.text "system.txt")
    systemPrompt := given.value? .systemPrompt
    functions := given.value? .functions
    noFunctions := given.switches.contains .noFunctions
    verbose := given.switches.contains .verbose }

def job? (arguments : List String) : Option Job := do
  let first :: rest := arguments | none
  let command ← commands.lookup first
  let given ← collect command.flags {} rest
  if given.switches.contains .help then none
  match command with
  | .listFunctions => return .listFunctions (given.value? .functions)
  | .ask =>
      let choices ← given.choices?
      return .ask choices (← given.value? .prompt)
  | .chat => return .chat (← given.choices?)

end Parley.CommandLine

