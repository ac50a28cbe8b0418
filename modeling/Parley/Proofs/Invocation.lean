import Parley.Toolbox

namespace Parley

namespace Toolbox

def invoking (name : String) : Record := ⟨.info, .toolbox, s!"Invoking {name}"⟩

/-- The ways in which calling a function by name can go. -/
inductive Invocation (toolbox : Toolbox) (name : String) (arguments : List String) :
    Except Failure String → Journal → Prop where
  | unknown (absent : toolbox.find? name = none) :
      Invocation toolbox name arguments (.error (.unknownFunction name toolbox.names)) []
  | miscounted {tool : Tool} (found : toolbox.find? name = some tool)
      (refused : tool.spec.accepts arguments.length = false) :
      Invocation toolbox name arguments
        (.error (.arity name tool.spec.arity arguments.length (some tool.spec.minArity))) []
  | failed {tool : Tool} {cause : Failure} (found : toolbox.find? name = some tool)
      (accepted : tool.spec.accepts arguments.length = true) (ran : tool.run arguments = .error cause) :
      Invocation toolbox name arguments (.error (.execution name cause arguments)) [invoking name]
  | unwritten {tool : Tool} {value : Json} (found : toolbox.find? name = some tool)
      (accepted : tool.spec.accepts arguments.length = true) (ran : tool.run arguments = .ok value)
      (unwritable : value.integers.all Text.isWritable = false) :
      Invocation toolbox name arguments (.error (Failure.tooManyDigits none)) [invoking name]
  | returned {tool : Tool} {value : Json} (found : toolbox.find? name = some tool)
      (accepted : tool.spec.accepts arguments.length = true) (ran : tool.run arguments = .ok value)
      (writable : value.integers.all Text.isWritable = true) :
      Invocation toolbox name arguments (.ok value.plain) [invoking name]

theorem find?_name {toolbox : Toolbox} {name : String} {tool : Tool} (found : toolbox.find? name = some tool) :
    tool.spec.name = name := by
  simpa using List.find?_some found

theorem invocation (toolbox : Toolbox) (name : String) (arguments : List String) :
    toolbox.Invocation name arguments (toolbox.invoke name arguments).1 (toolbox.invoke name arguments).2 := by
  cases found : toolbox.find? name with
  | none =>
    simp only [invoke, found]
    exact .unknown found
  | some tool =>
    have same := find?_name found
    cases accepted : tool.spec.accepts arguments.length with
    | false =>
      simp only [invoke, found, accepted, Bool.false_eq_true, if_false]
      exact .miscounted found accepted
    | true =>
      cases ran : tool.run arguments with
      | error cause =>
        simp only [invoke, found, accepted, if_true, ran, same]
        exact .failed found accepted ran
      | ok value =>
        simp only [invoke, found, accepted, if_true, ran, same, Failure.writing]
        split
        next writable => exact .returned found accepted ran writable
        next unwritable => exact .unwritten found accepted ran (Bool.eq_false_iff.2 unwritable)

theorem invoke_unwritten {toolbox : Toolbox} {name : String} {arguments : List String} {tool : Tool} {value : Json}
    (found : toolbox.find? name = some tool) (accepted : tool.spec.accepts arguments.length = true)
    (ran : tool.run arguments = .ok value) (unwritable : value.integers.all Text.isWritable = false) :
    (toolbox.invoke name arguments).1 = .error (Failure.tooManyDigits none) := by
  simp only [invoke, found, accepted, if_true, ran, Failure.writing, unwritable, Bool.false_eq_true, if_false]

theorem nodup_names (toolbox : Toolbox) : toolbox.names.Nodup := by
  rw [names, specs, List.map_map]
  exact toolbox.distinct

theorem mem_names {toolbox : Toolbox} {name : String} {tool : Tool} (found : toolbox.find? name = some tool) :
    name ∈ toolbox.names := by
  rw [← find?_name found]
  exact List.mem_map_of_mem (List.mem_map_of_mem (List.mem_of_find?_eq_some found))

/-- Whatever comes of a call, at most one function is run for it, and that function is there. -/
theorem Invocation.runs_cases {toolbox : Toolbox} {name : String} {arguments : List String}
    {result : Except Failure String} {runs : Journal} (invocation : toolbox.Invocation name arguments result runs) :
    runs = [] ∨ (runs = [invoking name] ∧ name ∈ toolbox.names) := by
  cases invocation with
  | unknown | miscounted => exact .inl rfl
  | failed found | unwritten found | returned found => exact .inr ⟨rfl, mem_names found⟩

theorem Invocation.runs_of_ok {toolbox : Toolbox} {name : String} {arguments : List String} {result : String}
    {runs : Journal} (invocation : toolbox.Invocation name arguments (.ok result) runs) : runs = [invoking name] := by
  cases invocation with
  | returned => rfl

theorem Invocation.ran_of_ok {toolbox : Toolbox} {name : String} {arguments : List String} {result : String}
    {runs : Journal} (invocation : toolbox.Invocation name arguments (.ok result) runs) :
    ∃ tool value, toolbox.find? name = some tool ∧ tool.run arguments = .ok value ∧ result = value.plain := by
  cases invocation with
  | returned found _ ran => exact ⟨_, _, found, ran, rfl⟩

/-- The library's own failures of a call. -/
theorem Invocation.own_cases {toolbox : Toolbox} {name : String} {arguments : List String} {failure : Failure}
    {runs : Journal} (invocation : toolbox.Invocation name arguments (.error failure) runs)
    (own : failure.isOwn = true) :
    (∃ available, failure = .unknownFunction name available) ∨
    (∃ expected got minimum, failure = .arity name expected got minimum) ∨
    (∃ cause, failure = .execution name cause arguments) := by
  cases invocation with
  | unknown => exact .inl ⟨_, rfl⟩
  | miscounted => exact .inr (.inl ⟨_, _, _, rfl⟩)
  | failed => exact .inr (.inr ⟨_, rfl⟩)
  | unwritten => cases own

end Toolbox

end Parley

