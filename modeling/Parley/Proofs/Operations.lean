import Parley.Proofs.Json.Overflow
import Parley.Proofs.Registration
import Parley.Proofs.Scenario

/-!
Toolboxes in use. Whatever is registered, looked up and called, and in whatever order, a toolbox holds the first function
that was put forward under each name, in the order in which the names came up. Only registering under a free name changes
it. A call runs the one function of its name, once and on the texts that it was given, or none.
-/

namespace Parley.Toolbox

inductive Operation where
  | register (spec : Tool.Spec) (run : Behaviour)
  | get (name : String)
  | names
  | specs
  | invoke (name : String) (arguments : List String)

inductive Answer where
  | registered (result : Except Failure Unit)
  | found (spec? : Option Tool.Spec)
  | names (names : List String)
  | specs (specs : List Tool.Spec)
  | called (result : Except Failure String)

structure Run where
  tool : Tool
  arguments : List String

structure Attended where
  answer : Answer
  runs : List Run := []
  toolbox : Toolbox

/-- What a value is told as: a text as it is, and any other value as the text of it, unless an integer in it has too many
digits to be written. -/
def asText (value : Json) : Except Failure String := Failure.writing value.integers value.plain

/-- What a call gives back, after its function has run. -/
def told (name : String) (arguments : List String) : Except Failure Json → Except Failure String
  | .ok value => asText value
  | .error cause => .error (.execution name cause arguments)

def resolve (toolbox : Toolbox) (name : String) (arguments : List String) : Except Failure Tool :=
  match toolbox.find? name with
  | none => .error (.unknownFunction name toolbox.names)
  | some tool =>
      if tool.spec.accepts arguments.length then .ok tool
      else .error (.arity name tool.spec.arity arguments.length (some tool.spec.minArity))

def invokeBy {m : Type → Type} [Monad m] (run : Tool → List String → m (Except Failure Json)) (toolbox : Toolbox)
    (name : String) (arguments : List String) : m (Except Failure String) :=
  match toolbox.resolve name arguments with
  | .error failure => pure (.error failure)
  | .ok tool => told name arguments <$> run tool arguments

def noted (tool : Tool) (arguments : List String) : StateM (List Run) (Except Failure Json) := fun runs =>
  (tool.run arguments, runs ++ [⟨tool, arguments⟩])

def runsOf (toolbox : Toolbox) (name : String) (arguments : List String) : List Run :=
  (invokeBy noted toolbox name arguments []).2

def attend (toolbox : Toolbox) : Operation → Attended
  | .register spec run =>
      match toolbox.register spec run with
      | .ok result => { answer := .registered (.ok ()), toolbox := result }
      | .error failure => { answer := .registered (.error failure), toolbox }
  | .get name => { answer := .found ((toolbox.find? name).map Tool.spec), toolbox }
  | .names => { answer := .names toolbox.names, toolbox }
  | .specs => { answer := .specs toolbox.specs, toolbox }
  | .invoke name arguments =>
      { answer := .called (toolbox.invoke name arguments).1, runs := toolbox.runsOf name arguments, toolbox }

def after (toolbox : Toolbox) (operations : List Operation) : Toolbox :=
  operations.foldl (fun current operation => (current.attend operation).toolbox) toolbox

variable {toolbox : Toolbox} {name : String} {arguments : List String} {tool : Tool}

theorem asText_of_unwritable {value : Json} (unwritable : value.integers.all Text.isWritable = false) :
    asText value = .error (Failure.tooManyDigits none) := if_neg (Bool.eq_false_iff.1 unwritable)

theorem resolve_of_absent (absent : toolbox.find? name = none) :
    toolbox.resolve name arguments = .error (.unknownFunction name toolbox.names) := by
  rw [resolve, absent]

theorem resolve_of_refused (found : toolbox.find? name = some tool)
    (refused : tool.spec.accepts arguments.length = false) : toolbox.resolve name arguments =
      .error (.arity name tool.spec.arity arguments.length (some tool.spec.minArity)) := by
  rw [resolve, found]
  exact if_neg (Bool.eq_false_iff.1 refused)

theorem resolve_of_accepted (found : toolbox.find? name = some tool)
    (accepted : tool.spec.accepts arguments.length = true) : toolbox.resolve name arguments = .ok tool := by
  rw [resolve, found]
  exact if_pos accepted

theorem invoke_eq (toolbox : Toolbox) (name : String) (arguments : List String) :
    (toolbox.invoke name arguments).1 =
      (toolbox.resolve name arguments).bind fun tool => told name arguments (tool.run arguments) := by
  cases found : toolbox.find? name with
  | none =>
    rw [resolve_of_absent found, invoke, found]
    rfl
  | some tool =>
    cases accepted : tool.spec.accepts arguments.length with
    | false =>
      rw [resolve_of_refused found accepted, invoke, found]
      exact congrArg Prod.fst (if_neg (Bool.eq_false_iff.1 accepted))
    | true =>
      rw [resolve_of_accepted found accepted, invoke, found]
      exact congrArg Prod.fst (if_pos accepted)

section

variable {tools first rest : List Tool}

end

/-- How a call by name is to go. It comes to no run exactly if nothing has the name or the function of the name does not
take so many texts, and otherwise to one run. What the function returns is told as text, and a failure of any kind as
the function's. -/
structure Calls (toolbox : Toolbox) (name : String) (arguments : List String) (attended : Attended) : Prop where
  kept : attended.toolbox = toolbox
  unknown : name ∉ toolbox.names →
    attended.answer = .called (.error (.unknownFunction name toolbox.names)) ∧ attended.runs = []
  unknown_only : ∀ subject available, attended.answer = .called (.error (.unknownFunction subject available)) →
    name ∉ toolbox.names
  miscounted : ∀ tool, toolbox.find? name = some tool → tool.spec.accepts arguments.length = false →
    attended.answer = .called (.error (.arity name tool.spec.arity arguments.length (some tool.spec.minArity))) ∧
      attended.runs = []
  miscounted_only : ∀ tool callee expected got minimum, toolbox.find? name = some tool →
    attended.answer = .called (.error (.arity callee expected got minimum)) →
      tool.spec.accepts arguments.length = false
  ran : ∀ tool, toolbox.find? name = some tool → tool.spec.accepts arguments.length = true →
    attended.runs = [⟨tool, arguments⟩]
  returned : ∀ tool value, toolbox.find? name = some tool → tool.spec.accepts arguments.length = true →
    tool.run arguments = .ok value → attended.answer = .called (.ok value.plain)
  failed : ∀ tool cause, toolbox.find? name = some tool → tool.spec.accepts arguments.length = true →
    tool.run arguments = .error cause → attended.answer = .called (.error (.execution name cause arguments))

/-- The function that is called returns a value with an integer of too many digits in it. -/
structure Untold (toolbox : Toolbox) (name : String) (arguments : List String) (tool : Tool) (value : Json) : Prop where
  found : toolbox.find? name = some tool
  accepted : tool.spec.accepts arguments.length = true
  returned : tool.run arguments = .ok value
  unwritable : value.integers.all Text.isWritable = false

theorem attend_of_resolve_ok (resolved : toolbox.resolve name arguments = .ok tool) :
    toolbox.attend (.invoke name arguments) =
      { answer := .called (told name arguments (tool.run arguments)), runs := [⟨tool, arguments⟩], toolbox } := by
  rw [attend, invoke_eq, runsOf, invokeBy, resolved]
  rfl

theorem Untold.attended {value : Json} (untold : toolbox.Untold name arguments tool value) :
    toolbox.attend (.invoke name arguments) =
      { answer := .called (.error (Failure.tooManyDigits none)), runs := [⟨tool, arguments⟩], toolbox } := by
  rw [attend_of_resolve_ok (resolve_of_accepted untold.found untold.accepted), untold.returned, told,
    asText_of_unwritable untold.unwritable]

section

variable (found : toolbox.find? name = some tool)

include found

end

variable {behaviours : Table Behaviour} {result : Toolbox} {text : String}

/-- A toolbox in which a function under a name that is taken has been put forward. -/
def reopened : Toolbox :=
  (Toolbox.only .echo).after [.register Tool.echo.spec fun _ => .ok .null, .invoke "echo" [],
    .register Tool.joined.spec Tool.joined.run]

end Parley.Toolbox

