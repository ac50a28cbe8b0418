import Mathlib.Data.List.Perm.Subperm
import Parley.Proofs.Failing
import Parley.Tool.Declaration

namespace Parley.Tool

namespace Spec

def schemaField (spec : Spec) (key : String) : Json :=
  match spec.schema with
  | .object fields => Json.field key fields
  | _ => .null

/-- Everywhere the first arguments, as many as the least count says, are the required ones, and the others are not. -/
structure TellsOneArity (spec : Spec) : Prop where
  natural : 0 ≤ spec.minArity
  bounded : spec.minArity ≤ spec.arity
  properties : ∃ entries : Fields, spec.schemaField "properties" = .object entries ∧ entries.names = spec.arguments
  required : spec.schemaField "required" = .texts (spec.arguments.take spec.minArity.toNat)
  signature : spec.signature = spec.name ++ "(" ++ ", ".intercalate (spec.arguments.take spec.minArity.toNat ++
    (spec.arguments.drop spec.minArity.toNat).map fun argument => "*" ++ argument) ++ ")"
  counted : ∀ object : Fields, object.names.Nodup → object.names ⊆ spec.arguments → spec.required ⊆ object.names →
    spec.accepts object.length = true

section

variable {spec : Spec}

theorem checked_iff : spec.checked = .ok spec ↔ spec.optionalTrails = true := by
  unfold checked
  split
  next trails => simp [trails]
  next astray => simp [astray]

theorem minArity_toNat (spec : Spec) : spec.minArity.toNat = spec.arguments.length - spec.optional.length := by
  unfold minArity
  omega

theorem mem_arguments_of_mem_optional (accepted : spec.checked = .ok spec) {name : String}
    (held : name ∈ spec.optional) : name ∈ spec.arguments := by
  have trails := checked_iff.1 accepted
  simp only [optionalTrails, Bool.or_eq_true, Bool.and_eq_true, List.all_eq_true, List.contains_iff_mem,
    List.isEmpty_iff] at trails
  rcases trails with none | ⟨within, _⟩
  · rw [none] at held
    cases held
  · have there := within name held
    unfold lastArguments at there
    split at there
    · exact List.mem_of_mem_drop there
    · exact List.mem_of_mem_drop there

/-- Optional names that are not more than the arguments are, as a set, as many of the last arguments. -/
theorem mem_optional_iff (accepted : spec.checked = .ok spec) (short : spec.optional.length ≤ spec.arguments.length)
    (name : String) : name ∈ spec.optional ↔ name ∈ spec.arguments.drop spec.minArity.toNat := by
  have trails := checked_iff.1 accepted
  simp only [optionalTrails, Bool.or_eq_true, Bool.and_eq_true, List.all_eq_true, List.contains_iff_mem,
    List.isEmpty_iff, lastArguments, if_pos short] at trails
  rw [minArity_toNat]
  rcases trails with none | ⟨within, covered⟩
  · simp [none]
  · exact ⟨within name, covered name⟩

theorem length_optional_le (accepted : spec.checked = .ok spec) (once : spec.optional.Nodup) :
    spec.optional.length ≤ spec.arguments.length := by
  apply List.Subperm.length_le
  apply List.subperm_of_subset once
  intro name held
  exact mem_arguments_of_mem_optional accepted held

section

variable (accepted : spec.checked = .ok spec) (distinct : spec.arguments.Nodup)
  (short : spec.optional.length ≤ spec.arguments.length)

include accepted distinct short

theorem isOptional_of_mem_take {name : String} (held : name ∈ spec.arguments.take spec.minArity.toNat) :
    spec.isOptional name = false := by
  have absent : name ∉ spec.optional := by
    rw [mem_optional_iff accepted short]
    intro later
    rw [← List.take_append_drop spec.minArity.toNat spec.arguments, List.nodup_append] at distinct
    exact distinct.2.2 name held name later rfl
  simpa [isOptional] using absent

omit distinct in
theorem isOptional_of_mem_drop {name : String} (held : name ∈ spec.arguments.drop spec.minArity.toNat) :
    spec.isOptional name = true := by
  simpa [isOptional] using (mem_optional_iff accepted short name).2 held

theorem required_eq_take : spec.required = spec.arguments.take spec.minArity.toNat := by
  have first : (spec.arguments.take spec.minArity.toNat).filter (fun name => !spec.isOptional name) =
      spec.arguments.take spec.minArity.toNat := by
    apply List.filter_eq_self.2
    intro name held
    simp [isOptional_of_mem_take accepted distinct short held]
  have last : (spec.arguments.drop spec.minArity.toNat).filter (fun name => !spec.isOptional name) = [] := by
    apply List.filter_eq_nil_iff.2
    intro name held
    simp [isOptional_of_mem_drop accepted short held]
  calc
    spec.required = (spec.arguments.take spec.minArity.toNat ++ spec.arguments.drop spec.minArity.toNat).filter
        fun name => !spec.isOptional name := by rw [List.take_append_drop]; rfl
    _ = _ := by rw [List.filter_append, first, last, List.append_nil]

theorem starred_eq : (spec.arguments.map fun name => if spec.isOptional name then "*" ++ name else name) =
    spec.arguments.take spec.minArity.toNat ++
      (spec.arguments.drop spec.minArity.toNat).map fun name => "*" ++ name := by
  conv_lhs => rw [← List.take_append_drop spec.minArity.toNat spec.arguments]
  rw [List.map_append]
  congr 1
  · rw [List.map_congr_left (g := id), List.map_id]
    intro name held
    simp [isOptional_of_mem_take accepted distinct short held]
  · apply List.map_congr_left
    intro name held
    simp [isOptional_of_mem_drop accepted short held]

theorem accepts_of_required {object : Fields} (once : object.names.Nodup) (declared : object.names ⊆ spec.arguments)
    (given : spec.required ⊆ object.names) : spec.accepts object.length = true := by
  have counted : object.names.length = object.length := List.length_map _
  have most : object.names.length ≤ spec.arguments.length := (List.subperm_of_subset once declared).length_le
  rw [required_eq_take accepted distinct short] at given
  have least := (List.subperm_of_subset (distinct.sublist (List.take_sublist _ _)) given).length_le
  rw [List.length_take, minArity_toNat] at least
  simp only [accepts, Bool.and_eq_true, decide_eq_true_eq]
  unfold minArity arity
  omega

end

theorem tellsOneArity_of_distinct (accepted : spec.checked = .ok spec) (distinct : spec.arguments.Nodup)
    (once : spec.optional.Nodup) : spec.TellsOneArity := by
  have short := length_optional_le accepted once
  refine ⟨?_, ?_, ⟨_, rfl, ?_⟩, ?_, ?_, ?_⟩
  · unfold minArity
    omega
  · unfold minArity arity
    omega
  · have names : (spec.arguments.map fun name => ((name, Json.object [("type", "string"),
        ("description", spec.argumentText name)]) : String × Json)).map Prod.fst = spec.arguments := by
      simp [Function.comp_def]
    rw [Table.ofEntries_of_nodup (by rw [Table.names, names]; exact distinct)]
    exact names
  · have demanded : spec.schemaField "required" = .texts spec.required := rfl
    rw [demanded, required_eq_take accepted distinct short]
  · rw [Spec.signature, starred_eq accepted distinct short]
  · intro object one declared given
    exact accepts_of_required accepted distinct short one declared given

theorem TellsOneArity.distinct (tells : spec.TellsOneArity) : spec.arguments.Nodup := by
  obtain ⟨entries, same, names⟩ := tells.properties
  obtain rfl := Json.object.inj same
  rw [← names]
  exact Table.nodup_ofEntries _

theorem TellsOneArity.once (tells : spec.TellsOneArity) (accepted : spec.checked = .ok spec) : spec.optional.Nodup := by
  have natural := tells.natural
  have short : spec.optional.length ≤ spec.arguments.length := by
    unfold minArity at natural
    omega
  have last : (spec.arguments.drop spec.minArity.toNat).Nodup := tells.distinct.sublist (List.drop_sublist _ _)
  have covered : spec.arguments.drop spec.minArity.toNat ⊆ spec.optional := by
    intro name held
    exact (mem_optional_iff accepted short name).2 held
  have length : (spec.arguments.drop spec.minArity.toNat).length = spec.optional.length := by
    rw [List.length_drop, minArity_toNat]
    omega
  have same := (List.subperm_of_subset last covered).perm_of_length_le (Nat.le_of_eq length.symm)
  exact same.nodup_iff.1 last

end

end Spec

section

variable {spec : Spec}

/-- A spec that a signature completes is accepted, and its optional names are some of its arguments, in their order. -/
theorem Draft.complete_eq_ok {draft : Draft} {name : String} {inner : List Char}
    (completed : draft.complete name inner = .ok spec) :
    spec.checked = .ok spec ∧ spec.optional.Sublist spec.arguments := by
  unfold complete at completed
  dsimp only at completed
  split at completed
  next => cases completed
  next =>
    split at completed
    next => cases completed
    next =>
      split at completed
      next => cases completed
      next =>
        split at completed
        next found checked =>
          obtain rfl := Except.ok.inj completed
          obtain ⟨rfl, trails⟩ := Spec.checked_eq_ok checked
          exact ⟨Spec.checked_iff.2 trails, List.Sublist.map _ List.filter_sublist⟩
        next => cases completed

theorem complete_of_declarationsFrom {draft : Draft} {lines : List String} {specs : List Spec}
    (read : declarationsFrom draft lines = .ok specs) (held : spec ∈ specs) :
    ∃ (before : Draft) (name : String) (inner : List Char), before.complete name inner = .ok spec := by
  induction lines generalizing draft specs with
  | nil =>
    unfold declarationsFrom at read
    split at read
    next =>
      obtain rfl := Except.ok.inj read
      cases held
    next => cases read
  | cons line rest ih =>
    unfold declarationsFrom at read
    split at read
    next => exact ih read held
    next =>
      dsimp only at read
      split at read
      next =>
        obtain ⟨next, _, read⟩ := bind_eq_ok.1 read
        exact ih read held
      next =>
        split at read
        next => cases read
        next name inner _ =>
          obtain ⟨first, completed, read⟩ := bind_eq_ok.1 read
          obtain ⟨others, following, read⟩ := bind_eq_ok.1 read
          obtain rfl := Except.ok.inj read
          rcases List.mem_cons.1 held with rfl | later
          · exact ⟨_, name, inner, completed⟩
          · exact ih following later

end

/-- A spec that is accepted tells its arity the same way everywhere exactly if no argument and no optional name is
repeated. For a declared one it is enough that no argument is. -/
theorem tellsOneArity_iff (spec : Spec) :
    (spec.checked = .ok spec → (spec.TellsOneArity ↔ spec.arguments.Nodup ∧ spec.optional.Nodup)) ∧
    (∀ (text : String) (specs : List Spec), declarations text = .ok specs → spec ∈ specs →
      spec.checked = .ok spec ∧ (spec.TellsOneArity ↔ spec.arguments.Nodup)) := by
  have exactly (accepted : spec.checked = .ok spec) :
      spec.TellsOneArity ↔ spec.arguments.Nodup ∧ spec.optional.Nodup := by
    constructor
    · intro tells
      exact ⟨tells.distinct, tells.once accepted⟩
    · intro unrepeated
      exact Spec.tellsOneArity_of_distinct accepted unrepeated.1 unrepeated.2
  refine ⟨exactly, fun text specs read held => ?_⟩
  obtain ⟨draft, name, inner, completed⟩ := complete_of_declarationsFrom read held
  obtain ⟨accepted, optional⟩ := Draft.complete_eq_ok completed
  refine ⟨accepted, (exactly accepted).trans ?_⟩
  constructor
  · exact fun unrepeated => unrepeated.1
  · exact fun distinct => ⟨distinct, distinct.sublist optional⟩

def joinedText : String :=
  "// Join some parts\n// head: First\n// body: Second\n// tail: Third\nfn joined(head, *body, *tail)"

def joinedSpec : Spec where
  name := "joined"
  arguments := ["head", "body", "tail"]
  description := "Join some parts"
  argumentTexts := [("head", "First"), ("body", "Second"), ("tail", "Third")]
  optional := ["body", "tail"]

theorem joined_tellsOneArity :
    joinedSpec.checked = .ok joinedSpec ∧ joinedSpec.minArity = 1 ∧ joinedSpec.arity = 3 ∧
      declarations joinedText = .ok [joinedSpec] ∧ joinedSpec.TellsOneArity := by
  have accepted : joinedSpec.checked = .ok joinedSpec := rfl
  have declared : declarations joinedText = .ok [joinedSpec] := eq_ok_of_toOption (by decide +kernel)
  have told := (tellsOneArity_iff joinedSpec).2 joinedText [joinedSpec] declared List.mem_cons_self
  have constructed := (tellsOneArity_iff joinedSpec).1 accepted
  exact ⟨told.1, rfl, rfl, declared, constructed.2 ⟨by decide, by decide⟩⟩

/-- More optional names than arguments: counting back from the end starts again, and so the repeated name trails. -/
def overOptional : Spec := { name := "f", arguments := ["a"], optional := ["a", "a"] }

def twiceDeclaredText : String := "// Take two\n// a: First\n// a: Second\nfn f(a, *a)"

def twiceDeclared : Spec where
  name := "f"
  arguments := ["a", "a"]
  description := "Take two"
  argumentTexts := [("a", "Second")]
  optional := ["a"]

/-- Repeated names are accepted, and then the arity is told in different ways. -/
theorem repeated_names_tell_otherwise :
    (overOptional.checked = .ok overOptional ∧ overOptional.minArity = -1 ∧ ¬overOptional.TellsOneArity) ∧
    (declarations twiceDeclaredText = .ok [twiceDeclared] ∧ twiceDeclared.minArity = 1 ∧ twiceDeclared.required = [] ∧
      ¬twiceDeclared.TellsOneArity) := by
  have declared : declarations twiceDeclaredText = .ok [twiceDeclared] := eq_ok_of_toOption (by decide +kernel)
  refine ⟨⟨rfl, rfl, fun tells => ?_⟩, declared, rfl, rfl, fun tells => ?_⟩
  · have negative : ¬0 ≤ overOptional.minArity := by decide
    exact negative tells.natural
  · have repeated : ¬twiceDeclared.arguments.Nodup := by decide
    exact repeated tells.distinct

end Parley.Tool

