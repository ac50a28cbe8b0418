import Parley.Journal
import Parley.Json.Literal
import Parley.Tool.Declaration

namespace Parley

/-- What a function does with its ordered texts. It may return any value, and it may fail in any way. -/
abbrev Behaviour := List String → Except Failure Json

structure Tool where
  spec : Tool.Spec
  run : Behaviour

structure Toolbox where
  tools : List Tool := []
  distinct : (tools.map fun tool => tool.spec.name).Nodup := by simp

namespace Toolbox

def specs (toolbox : Toolbox) : List Tool.Spec := toolbox.tools.map Tool.spec

def names (toolbox : Toolbox) : List String := toolbox.specs.map Tool.Spec.name

def find? (toolbox : Toolbox) (name : String) : Option Tool := toolbox.tools.find? fun tool => tool.spec.name = name

def contains (toolbox : Toolbox) (name : String) : Bool := (toolbox.find? name).isSome

theorem distinct_append (toolbox : Toolbox) (added : Tool) (free : ¬toolbox.contains added.spec.name = true) :
    ((toolbox.tools ++ [added]).map fun tool => tool.spec.name).Nodup := by
  have absent : ∀ tool ∈ toolbox.tools, tool.spec.name ≠ added.spec.name := by
    simpa [contains, find?] using free
  rw [List.map_append, List.nodup_append]
  refine ⟨toolbox.distinct, by simp, ?_⟩
  simpa using absent

def register (toolbox : Toolbox) (spec : Tool.Spec) (run : Behaviour) : Except Failure Toolbox :=
  if taken : toolbox.contains spec.name then .error (.duplicate spec.name)
  else .ok { tools := toolbox.tools ++ [⟨spec, run⟩], distinct := toolbox.distinct_append ⟨spec, run⟩ taken }

/-- Calls a function by name. The journal tells of every run, whether or not it succeeds. A value that comes back is
told as text, which fails outside the function where it holds an integer with too many digits. -/
def invoke (toolbox : Toolbox) (name : String) (arguments : List String) : Except Failure String × Journal :=
  match toolbox.find? name with
  | none => (.error (.unknownFunction name toolbox.names), [])
  | some tool =>
      if tool.spec.accepts arguments.length then
        let result :=
          match tool.run arguments with
          | .ok value => Failure.writing value.integers value.plain
          | .error cause => .error (.execution name cause arguments)
        (result, [⟨.info, .toolbox, s!"Invoking {tool.spec.name}"⟩])
      else (.error (.arity name tool.spec.arity arguments.length (some tool.spec.minArity)), [])

/-- Registers specs one after the other, each with the behaviour of its name. -/
def registerAll (behaviours : Table Behaviour) : Toolbox → List Tool.Spec → Except Failure Toolbox
  | toolbox, [] => .ok toolbox
  | toolbox, spec :: rest =>
      match behaviours.lookup spec.name with
      | none => .error (.unknownFunction spec.name behaviours.names)
      | some run => do registerAll behaviours (← toolbox.register spec run) rest

def ofDeclarations (text : String) (behaviours : Table Behaviour) : Except Failure Toolbox := do
  registerAll behaviours {} (← Tool.declarations text)

def text (toolbox : Toolbox) : String :=
  "FunctionRegistry(" ++ ", ".intercalate (toolbox.specs.map Tool.Spec.signature) ++ ")"

theorem specs_of_register {toolbox result : Toolbox} {spec : Tool.Spec} {run : Behaviour}
    (h : toolbox.register spec run = .ok result) : result.specs = toolbox.specs ++ [spec] := by
  unfold register at h
  split at h
  · simp at h
  · rw [← Except.ok.inj h]
    simp [specs]

end Toolbox

end Parley

