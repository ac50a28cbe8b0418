import Parley.CommandLine.Program
import Parley.Proofs.Registration
import Parley.Proofs.Tool.Sequence

namespace Parley.CommandLine

open Toolbox (Registrable)

structure Surroundings.Holds (surroundings : Surroundings) (path text : String) : Prop where
  leads : ∃ expanded, surroundings.accounts.expand surroundings.environment path = .ok expanded ∧
    '\x00' ∉ expanded.toList ∧
    surroundings.files.find (surroundings.files.fullPath expanded) = .ok (some (.file text))

/-- How listing the functions of a file ends, by the text of the file. -/
inductive Listing (text : String) (network : Network) : Outcome → Prop where
  | listed {specs : List Tool.Spec} (declared : Tool.declarations text = .ok specs)
      (registrable : Registrable demoBehaviours [] specs) :
      Listing text network (.ended 0 (specs.flatMap listing) [] network [])
  | unread {failure : Failure} (malformed : Tool.declarations text = .error failure) :
      Listing text network (.ended 2 [] [failure.message] network [])
  | unimplemented {before after : List Tool.Spec} {spec : Tool.Spec}
      (declared : Tool.declarations text = .ok (before ++ spec :: after))
      (registrable : Registrable demoBehaviours [] before) (absent : spec.name ∉ demoBehaviours.names) :
      Listing text network
        (.ended 2 [] [(Failure.unknownFunction spec.name demoBehaviours.names).message] network [])
  | repeated {before after : List Tool.Spec} {spec : Tool.Spec}
      (declared : Tool.declarations text = .ok (before ++ spec :: after))
      (registrable : Registrable demoBehaviours [] before) (again : spec.name ∈ before.map Tool.Spec.name) :
      Listing text network (.crashed (.duplicate spec.name) [])

theorem textOf_of_holds {surroundings : Surroundings} {path text : String} (holds : surroundings.Holds path text) :
    surroundings.textOf path = .ok (Text.unifyNewlines text) := by
  obtain ⟨expanded, expands, storable, found⟩ := holds.leads
  have clean : expanded.toList.contains '\x00' = false := by simpa using storable
  simp only [Surroundings.textOf, expands, bind, Except.bind, clean, found]
  rfl

/-- The toolbox depends on nothing but the text of the file. -/
theorem toolbox_of_holds {surroundings : Surroundings} {path text : String} (holds : surroundings.Holds path text) :
    surroundings.toolbox (some (.text path)) = Toolbox.ofDeclarations text demoBehaviours := by
  have same : Tool.declarations (Text.unifyNewlines text) = Tool.declarations text := by
    rw [Tool.declarations, Text.lines_unifyNewlines, Tool.declarations]
  simp only [Surroundings.toolbox, textOf_of_holds holds, bind, Except.bind, Toolbox.ofDeclarations, same]

theorem run_listFunctions (surroundings : Surroundings) {path : String}
    (plain : classify Command.listFunctions.flags path = .plain) :
    run surroundings ["list-functions", "--functions", path] =
      (listFunctions surroundings (some (.text path))).outcome := by
  have flag : classify Command.listFunctions.flags "--functions" = .flag (.setting .functions) none := by rfl
  have collected : collect Command.listFunctions.flags {} ["--functions", path] =
      some { settings := [(.functions, .text path)] } := by
    simp [collect, flag, plain, Given.set]
  have job : job? ["list-functions", "--functions", path] = some (.listFunctions (some (.text path))) := by
    have command : commands.lookup "list-functions" = some .listFunctions := by rfl
    simp [job?, command, collected, Given.value?]
  rw [run, job]
  rfl

theorem listFunctions_outcome_of_ok {surroundings : Surroundings} {functions : Option Content} {toolbox : Toolbox}
    (made : surroundings.toolbox functions = .ok toolbox) :
    (listFunctions surroundings functions).outcome =
      .ended 0 (toolbox.specs.flatMap listing) [] surroundings.network [] := by
  rw [listFunctions, made]
  rfl

theorem listFunctions_outcome_of_error {surroundings : Surroundings} {functions : Option Content} {failure : Failure}
    (failed : surroundings.toolbox functions = .error failure) :
    (listFunctions surroundings functions).outcome =
      match complaint? failure with
      | some text => .ended 2 [] [text] surroundings.network []
      | none => .crashed failure [] := by
  rw [listFunctions, failed]
  rfl

/-- Where the path of a file is given, listing its functions ends as the text of the file says, and in no other way. In
particular the run breaks off exactly where a name comes twice, and nothing is wrong with what stands before. -/
theorem run_listFunctions_iff {surroundings : Surroundings} {path text : String}
    (holds : surroundings.Holds path text) (plain : classify Command.listFunctions.flags path = .plain)
    (outcome : Outcome) :
    run surroundings ["list-functions", "--functions", path] = outcome ↔
      Listing text surroundings.network outcome := by
  have broken {failure : Failure} (made : Toolbox.ofDeclarations text demoBehaviours = .error failure) :=
    listFunctions_outcome_of_error ((toolbox_of_holds holds).trans made)
  rw [run_listFunctions surroundings plain]
  constructor
  · rintro rfl
    cases made : Toolbox.ofDeclarations text demoBehaviours with
    | ok toolbox =>
      rw [listFunctions_outcome_of_ok ((toolbox_of_holds holds).trans made)]
      obtain ⟨declared, registrable⟩ := Toolbox.specs_of_ofDeclarations made
      exact .listed declared registrable
    | error failure =>
      rw [broken made]
      rcases Toolbox.ofDeclarations_eq_error.1 made with malformed | ⟨before, spec, after, declared, registrable, obstacle⟩
      · obtain ⟨declaration, issue, rfl⟩ := Tool.declarations_misdeclared text _ malformed
        exact .unread malformed
      · cases obstacle with
        | unimplemented absent => exact .unimplemented declared registrable absent
        | repeated _ again => exact .repeated declared registrable again
  · intro ends
    cases ends with
    | listed declared registrable =>
      obtain ⟨toolbox, made, rfl⟩ := Toolbox.exists_ofDeclarations declared registrable
      exact listFunctions_outcome_of_ok ((toolbox_of_holds holds).trans made)
    | unread malformed =>
      rw [broken (Toolbox.ofDeclarations_eq_error.2 (.inl malformed))]
      obtain ⟨declaration, issue, rfl⟩ := Tool.declarations_misdeclared text _ malformed
      rfl
    | unimplemented declared registrable absent =>
      exact broken (Toolbox.ofDeclarations_eq_error.2 (.inr ⟨_, _, _, declared, registrable, .unimplemented absent⟩))
    | repeated declared registrable again =>
      -- A name that has been registered has a behaviour, so it is the repetition that stands in the way.
      obtain ⟨earlier, held, same⟩ := List.mem_map.1 again
      have implemented := registrable.implemented earlier held
      rw [same] at implemented
      exact broken
        (Toolbox.ofDeclarations_eq_error.2 (.inr ⟨_, _, _, declared, registrable, .repeated implemented again⟩))

def filed (text : String) : Surroundings where
  files := { entries := [("declared.txt", .file text)] }

theorem holds_filed {text : String}
    (found : ((filed text).files.find ((filed text).files.fullPath "declared.txt")).toOption = some (some (.file text))) :
    (filed text).Holds "declared.txt" text :=
  ⟨"declared.txt", rfl, by decide, eq_ok_of_toOption found⟩

def additionText : String := "// The sum of two numbers.\n// a: One.\n// b: The other.\nfn add(a, b)"

def additionSpec : Tool.Spec where
  name := "add"
  arguments := ["a", "b"]
  description := "The sum of two numbers."
  argumentTexts := [("a", "One."), ("b", "The other.")]

theorem addition_listed :
    (filed additionText).Holds "declared.txt" additionText ∧
      classify Command.listFunctions.flags "declared.txt" = .plain ∧
      run (filed additionText) ["list-functions", "--functions", "declared.txt"] =
        .ended 0 ["- add(a, b): The sum of two numbers.", "    a: One.", "    b: The other."] [] {} [] := by
  have holds : (filed additionText).Holds "declared.txt" additionText := holds_filed (by decide +kernel)
  have plain : classify Command.listFunctions.flags "declared.txt" = .plain := by rfl
  have declared : Tool.declarations additionText = .ok [additionSpec] := eq_ok_of_toOption (by decide +kernel)
  have registrable : Registrable demoBehaviours [] [additionSpec] := ⟨by decide, by decide⟩
  have lines : [additionSpec].flatMap listing =
      ["- add(a, b): The sum of two numbers.", "    a: One.", "    b: The other."] := by decide
  rw [← lines]
  exact ⟨holds, plain, (run_listFunctions_iff holds plain _).2 (.listed declared registrable)⟩

def additionTwiceText : String := additionText ++ "\n" ++ additionText

/-- A function that is declared twice can be read and has a behaviour, and no failure is reported of it. -/
theorem addition_twice_breaks_off :
    Tool.declarations additionTwiceText = .ok [additionSpec, additionSpec] ∧
      run (filed additionTwiceText) ["list-functions", "--functions", "declared.txt"] =
        .crashed (.duplicate "add") [] := by
  have declared : Tool.declarations additionTwiceText = .ok [additionSpec, additionSpec] :=
    eq_ok_of_toOption (by decide +kernel)
  have refused : Toolbox.ofDeclarations additionTwiceText demoBehaviours =
      .error (.duplicate "add") :=
    Toolbox.ofDeclarations_eq_error.2 (.inr
      ⟨[additionSpec], additionSpec, [], declared, ⟨by decide, by decide⟩, .repeated (by decide) (by decide)⟩)
  have holds : (filed additionTwiceText).Holds "declared.txt" additionTwiceText := holds_filed (by decide +kernel)
  refine ⟨declared, ?_⟩
  rw [run_listFunctions _ (by rfl), listFunctions_outcome_of_error ((toolbox_of_holds holds).trans refused)]
  rfl

end Parley.CommandLine

