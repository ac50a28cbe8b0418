import Parley.Proofs.Failing
import Parley.Proofs.Invocation

namespace Parley.Toolbox

variable {behaviours : Table Behaviour} {toolbox result : Toolbox} {spec : Tool.Spec} {specs : List Tool.Spec}
  {failure : Failure}

theorem contains_iff {name : String} : toolbox.contains name = true ↔ name ∈ toolbox.names := by
  simp [contains, find?, names, specs]

theorem register_of_mem (taken : spec.name ∈ toolbox.names) (run : Behaviour) :
    toolbox.register spec run = .error (.duplicate spec.name) := by
  rw [register, dif_pos (contains_iff.2 taken)]

theorem register_of_not_mem (free : spec.name ∉ toolbox.names) (run : Behaviour) :
    ∃ result, toolbox.register spec run = .ok result := by
  rw [register, dif_neg fun taken => free (contains_iff.1 taken)]
  exact ⟨_, rfl⟩

def registerNamed (behaviours : Table Behaviour) (toolbox : Toolbox) (spec : Tool.Spec) : Except Failure Toolbox :=
  match behaviours.lookup spec.name with
  | none => .error (.unknownFunction spec.name behaviours.names)
  | some run => toolbox.register spec run

theorem registerAll_eq_foldlM (behaviours : Table Behaviour) (toolbox : Toolbox) (specs : List Tool.Spec) :
    registerAll behaviours toolbox specs = specs.foldlM (registerNamed behaviours) toolbox := by
  induction specs generalizing toolbox with
  | nil => rfl
  | cons spec rest ih =>
    rw [registerAll, List.foldlM_cons, registerNamed]
    cases behaviours.lookup spec.name with
    | none => rfl
    | some run => exact bind_congr fun next => ih next

/-- What stands in the way of a spec where some names are taken. -/
inductive Obstacle (behaviours : Table Behaviour) (taken : List String) (spec : Tool.Spec) : Failure → Prop where
  | unimplemented (absent : spec.name ∉ behaviours.names) :
      Obstacle behaviours taken spec (.unknownFunction spec.name behaviours.names)
  | repeated (implemented : spec.name ∈ behaviours.names) (again : spec.name ∈ taken) :
      Obstacle behaviours taken spec (.duplicate spec.name)

/-- Specs that can be registered where some names are taken. -/
structure Registrable (behaviours : Table Behaviour) (taken : List String) (specs : List Tool.Spec) : Prop where
  implemented : ∀ spec ∈ specs, spec.name ∈ behaviours.names
  distinct : (taken ++ specs.map Tool.Spec.name).Nodup

theorem mem_names_of_lookup {name : String} {run : Behaviour} (found : behaviours.lookup name = some run) :
    name ∈ behaviours.names := by
  refine Decidable.byContradiction fun absent => ?_
  rw [Table.lookup_of_not_mem absent] at found
  cases found

theorem registerNamed_eq_error : registerNamed behaviours toolbox spec = .error failure ↔
    Obstacle behaviours toolbox.names spec failure := by
  rw [registerNamed]
  constructor
  · intro failed
    split at failed
    next absent =>
      obtain rfl := Except.error.inj failed
      exact .unimplemented (Table.lookup_eq_none_iff.1 absent)
    next run found =>
      by_cases again : spec.name ∈ toolbox.names
      · rw [register_of_mem again] at failed
        obtain rfl := Except.error.inj failed
        exact .repeated (mem_names_of_lookup found) again
      · obtain ⟨next, added⟩ := register_of_not_mem again run
        rw [added] at failed
        cases failed
  · intro obstacle
    split
    next absent =>
      cases obstacle with
      | unimplemented => rfl
      | repeated implemented => exact absurd implemented (Table.lookup_eq_none_iff.1 absent)
    next run found =>
      cases obstacle with
      | unimplemented absent => exact absurd (mem_names_of_lookup found) absent
      | repeated _ again => exact register_of_mem again run

theorem specs_of_registerNamed (added : registerNamed behaviours toolbox spec = .ok result) :
    spec.name ∈ behaviours.names ∧ result.specs = toolbox.specs ++ [spec] := by
  rw [registerNamed] at added
  split at added
  next => cases added
  next run found => exact ⟨mem_names_of_lookup found, specs_of_register added⟩

theorem specs_of_registerAll (added : registerAll behaviours toolbox specs = .ok result) :
    result.specs = toolbox.specs ++ specs ∧ ∀ spec ∈ specs, spec.name ∈ behaviours.names := by
  rw [registerAll_eq_foldlM] at added
  induction specs generalizing toolbox with
  | nil =>
    obtain rfl := Except.ok.inj added
    simp
  | cons spec rest ih =>
    rw [List.foldlM_cons] at added
    obtain ⟨next, first, following⟩ := bind_eq_ok.1 added
    obtain ⟨implemented, one⟩ := specs_of_registerNamed first
    obtain ⟨all, others⟩ := ih following
    refine ⟨by rw [all, one, List.append_assoc]; rfl, fun spec held => ?_⟩
    rcases List.mem_cons.1 held with rfl | later
    · exact implemented
    · exact others spec later

theorem names_of_registerAll (added : registerAll behaviours toolbox specs = .ok result) :
    result.names = toolbox.names ++ specs.map Tool.Spec.name := by
  rw [names, (specs_of_registerAll added).1, List.map_append, names]

theorem registrable_of_registerAll (added : registerAll behaviours toolbox specs = .ok result) :
    Registrable behaviours toolbox.names specs where
  implemented := (specs_of_registerAll added).2
  distinct := by
    rw [← names_of_registerAll added]
    exact nodup_names result

theorem Registrable.free {taken : List String} {before after : List Tool.Spec}
    (registrable : Registrable behaviours taken (before ++ spec :: after)) :
    ¬Obstacle behaviours (taken ++ before.map Tool.Spec.name) spec failure := by
  intro obstacle
  cases obstacle with
  | unimplemented absent => exact absent (registrable.implemented spec (by simp))
  | repeated _ again =>
    have distinct := registrable.distinct
    rw [List.map_append, List.map_cons, ← List.append_assoc, List.nodup_append] at distinct
    exact distinct.2.2 _ again _ List.mem_cons_self rfl

theorem exists_registerAll_iff :
    (∃ result, registerAll behaviours toolbox specs = .ok result) ↔ Registrable behaviours toolbox.names specs := by
  refine ⟨fun ⟨result, added⟩ => registrable_of_registerAll added, fun registrable => ?_⟩
  cases all : registerAll behaviours toolbox specs with
  | ok result => exact ⟨result, rfl⟩
  | error failure =>
    rw [registerAll_eq_foldlM] at all
    obtain ⟨before, spec, after, state, rfl, folded, failed⟩ := foldlM_eq_error.1 all
    rw [← registerAll_eq_foldlM] at folded
    rw [registerNamed_eq_error, names_of_registerAll folded] at failed
    exact absurd failed registrable.free

/-- Registering fails with what stands in the way of the first spec that cannot be added. -/
theorem registerAll_eq_error : registerAll behaviours toolbox specs = .error failure ↔
    ∃ before spec after, specs = before ++ spec :: after ∧ Registrable behaviours toolbox.names before ∧
      Obstacle behaviours (toolbox.names ++ before.map Tool.Spec.name) spec failure := by
  rw [registerAll_eq_foldlM, foldlM_eq_error]
  constructor
  · rintro ⟨before, spec, after, state, rfl, folded, failed⟩
    rw [← registerAll_eq_foldlM] at folded
    rw [registerNamed_eq_error, names_of_registerAll folded] at failed
    exact ⟨before, spec, after, rfl, registrable_of_registerAll folded, failed⟩
  · rintro ⟨before, spec, after, rfl, registrable, obstacle⟩
    obtain ⟨state, folded⟩ := exists_registerAll_iff.2 registrable
    rw [← names_of_registerAll folded] at obstacle
    rw [registerAll_eq_foldlM] at folded
    exact ⟨before, spec, after, state, rfl, folded, registerNamed_eq_error.2 obstacle⟩

variable {text : String}

/-- A toolbox that comes of a text has the declared specs in their order. -/
theorem specs_of_ofDeclarations (made : ofDeclarations text behaviours = .ok result) :
    Tool.declarations text = .ok result.specs ∧ Registrable behaviours [] result.specs := by
  obtain ⟨specs, declared, added⟩ := bind_eq_ok.1 made
  have same : result.specs = specs := (specs_of_registerAll added).1
  rw [same]
  exact ⟨declared, registrable_of_registerAll added⟩

theorem exists_ofDeclarations (declared : Tool.declarations text = .ok specs)
    (registrable : Registrable behaviours [] specs) :
    ∃ result, ofDeclarations text behaviours = .ok result ∧ result.specs = specs := by
  obtain ⟨result, added⟩ := exists_registerAll_iff.2 (show Registrable behaviours (names {}) specs from registrable)
  exact ⟨result, by rw [ofDeclarations, declared]; exact added, (specs_of_registerAll added).1⟩

theorem ofDeclarations_eq_error : ofDeclarations text behaviours = .error failure ↔
    Tool.declarations text = .error failure ∨
      ∃ before spec after, Tool.declarations text = .ok (before ++ spec :: after) ∧ Registrable behaviours [] before ∧
        Obstacle behaviours (before.map Tool.Spec.name) spec failure := by
  rw [ofDeclarations, bind_eq_error]
  refine or_congr_right ⟨?_, ?_⟩
  · rintro ⟨specs, declared, failed⟩
    obtain ⟨before, spec, after, rfl, registrable, obstacle⟩ := registerAll_eq_error.1 failed
    exact ⟨before, spec, after, declared, registrable, obstacle⟩
  · rintro ⟨before, spec, after, declared, registrable, obstacle⟩
    exact ⟨_, declared, registerAll_eq_error.2 ⟨before, spec, after, rfl, registrable, obstacle⟩⟩

end Parley.Toolbox

