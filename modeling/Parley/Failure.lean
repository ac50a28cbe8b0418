import Parley.Json.Literal
import Parley.Text.Lines

/-!
Everything that can go wrong, by its cause. The library's own failures carry the data that explain them and are
worded in one place; the failures of code that it calls are kept apart as foreign.
-/

namespace Parley

inductive ForeignKind where
  | invalidValue
  | missingKey
  | missingAttribute
  | missingFile
  | directory
  | wrongType
  | badIndex
  | overflow
  | divisionByZero
  | runtime
  | recursion
  | system
  | malformedText
  | other
  deriving DecidableEq, Repr

def ForeignKind.name : ForeignKind → String
  | .invalidValue => "ValueError"
  | .missingKey => "KeyError"
  | .missingAttribute => "AttributeError"
  | .missingFile => "FileNotFoundError"
  | .directory => "IsADirectoryError"
  | .wrongType => "TypeError"
  | .badIndex => "IndexError"
  | .overflow => "OverflowError"
  | .divisionByZero => "ZeroDivisionError"
  | .runtime => "RuntimeError"
  | .recursion => "RecursionError"
  | .system => "OSError"
  | .malformedText => "JSONDecodeError"
  | .other => "Exception"

inductive Failure where
  /-- A failure of no particular class. -/
  | general (text suggestion : String)
  /-- The network failed, or the vendor answered with an error. -/
  | transport (text : String) (status : Option Int) (provider : String)
  | malformed (provider text : String)
  | rejected (provider finishReason answer : String)
  /-- A call names a function that is not there. Vendors may send any value for a name. -/
  | unknownFunction (name : Json) (available : List String)
  /-- A function got a number of arguments that it does not take. Without a minimum it takes one number only. -/
  | arity (name : String) (expected got : Int) (minimum : Option Int)
  | duplicate (name : String)
  | execution (name : String) (cause : Failure) (arguments : List String)
  | ambiguous (fragment reason : String)
  | declaration (declaration issue : String)
  | configuration (provider missing setting : String)
  /-- Code outside the library failed. -/
  | foreign (kind : ForeignKind) (text : String)

namespace Failure

/-- The failure of reading an integer with too many digits, or of writing one, which does not tell how many. -/
def tooManyDigits (digits : Option Nat) : Failure :=
  let told := digits.elim "" fun digits => s!": value has {Text.natText digits} digits"
  .foreign .invalidValue
    s!"Exceeds the limit ({Text.natText Text.digitLimit} digits) for integer string conversion{told}; use sys.set_int_max_str_digits() to increase the limit"

/-- A text in which the given integers are written, unless one of them has too many digits. -/
def writing (values : List Int) (text : String) : Except Failure String :=
  if values.all Text.isWritable then .ok text else .error (tooManyDigits none)

/-- The system takes no null character, neither in a variable nor in a path. -/
def nullCharacter : Failure := .foreign .invalidValue "embedded null byte"

/-- The failure of adding an integer out of the range of floats to a float. -/
def beyondFloats : Failure := .foreign .overflow "int too large to convert to float"

theorem writing_eq_ok {values : List Int} (h : ∀ value ∈ values, Text.isWritable value = true) (text : String) :
    writing values text = .ok text := by
  simp [writing, List.all_eq_true.2 h]

def isOwn : Failure → Bool
  | foreign _ _ => false
  | _ => true

def className : Failure → String
  | general .. => "LlmClientError"
  | transport .. => "TransportError"
  | malformed .. => "MalformedResponse"
  | rejected .. => "VendorRejection"
  | unknownFunction .. => "UnknownFunction"
  | arity .. => "ArityMismatch"
  | duplicate .. => "DuplicateFunction"
  | execution .. => "FunctionExecutionError"
  | ambiguous .. => "ExtractionAmbiguous"
  | declaration .. => "FunctionDeclarationError"
  | configuration .. => "ProviderConfigurationError"
  | foreign kind _ => kind.name

def label : Failure → String
  | general .. => "Error"
  | transport .. => "Transport Error"
  | malformed .. => "Malformed Response"
  | rejected .. => "Vendor Rejection"
  | unknownFunction .. => "Unknown Function"
  | arity .. => "Arity Mismatch"
  | duplicate .. => "Duplicate Function"
  | execution .. => "Function Execution Failed"
  | ambiguous .. => "Ambiguous Function Call"
  | declaration .. => "Invalid Function Declaration"
  | configuration .. => "Provider Configuration Error"
  | foreign .. => ""

def wantedCount (minimum expected : Int) : String :=
  if minimum = expected then Text.intText expected else s!"{Text.intText minimum} to {Text.intText expected}"

def suggestion : Failure → String
  | general _ suggestion => suggestion
  | rejected .. => "Rephrase the request or raise max_tokens if the answer was cut short"
  | unknownFunction _ available =>
      if available.isEmpty then "" else "Available functions: " ++ ", ".intercalate available
  | declaration .. => "Use '// description', '// arg: description' lines then 'fn name(arg, ...)'"
  | configuration _ _ setting =>
      if setting.isEmpty then "" else s!"export {setting}='...' or pass it in ProviderConfig"
  | _ => ""

/-- A detail under its failure's label and before its suggestion. Foreign failures have neither. -/
def framed (failure : Failure) (detail : String) : String :=
  if failure.isOwn then
    failure.label ++ ": " ++ detail ++
      if failure.suggestion.isEmpty then "" else "\n💡 Suggestion: " ++ failure.suggestion
  else detail

/-- What went wrong, without label and suggestion. A missing key is quoted. -/
def detail : Failure → String
  | general text _ => text
  | transport text status provider =>
      (if provider.isEmpty then "" else s!"[{provider}] ") ++
        (match status with
          | some code => s!"HTTP {Text.intText code}: "
          | none => "") ++ text
  | malformed provider text => s!"[{provider}] {text}"
  | rejected provider finishReason _ => s!"[{provider}] generation stopped with finish reason '{finishReason}'"
  | unknownFunction name _ => s!"'{name.plain}' is not registered"
  | arity name expected got minimum =>
      s!"'{name}' expects {wantedCount (minimum.getD expected) expected} argument(s), got {Text.intText got}"
  | duplicate name => s!"'{name}' is already registered"
  | execution name cause _ => s!"'{name}' raised {cause.className}: {framed cause cause.detail}"
  | ambiguous fragment reason => s!"'{fragment}' looks like a function call but {reason}"
  | declaration _ issue => issue
  | configuration provider missing _ => s!"[{provider}] missing {missing}"
  | foreign .missingKey text => Text.quoted text
  | foreign _ text => text

def message (failure : Failure) : String := failure.framed failure.detail

def headline (failure : Failure) : String :=
  if failure.message.isEmpty then failure.className else (Text.firstLine? failure.message).getD ""

end Failure

end Parley

