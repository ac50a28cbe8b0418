import Mathlib.Data.List.Forall2
import Parley.Proofs.Tool.Wording

/-!
Specs written as declarations and read again. A declaration has few ways to say what a spec says: the description has
one line that must not read as the comment on an argument, and each argument has a text of one line. The main result is
that within these bounds nothing is lost, however many blank lines stand between the others.
-/

namespace Parley.Tool

open Text (isBlank trimList isOneLine isInked)

/-- A spec that a declaration can say: names as declarations have them, optional arguments that trail, and texts of one
line for the function and for each of its arguments. -/
structure Spec.Declarable (spec : Spec) : Prop where
  named : isDeclaredName spec.name.toList = true
  declared : ∀ argument ∈ spec.arguments, isDeclaredName argument.toList = true
  distinct : spec.arguments.Nodup
  trailing : spec.optional <:+ spec.arguments
  described : spec.description ≠ ""
  plain : IsPlain spec.description
  unshaped : ¬IsArgumentShaped spec.description.toList
  commented : spec.argumentTexts.names.Perm spec.arguments
  plainTexts : ∀ entry ∈ spec.argumentTexts, IsPlain entry.2

instance (spec : Spec) : Decidable spec.Declarable :=
  decidable_of_iff (isDeclaredName spec.name.toList = true ∧
      (∀ argument ∈ spec.arguments, isDeclaredName argument.toList = true) ∧ spec.arguments.Nodup ∧
      spec.optional <:+ spec.arguments ∧ spec.description ≠ "" ∧ IsPlain spec.description ∧
      ¬IsArgumentShaped spec.description.toList ∧ spec.argumentTexts.names.Perm spec.arguments ∧
      ∀ entry ∈ spec.argumentTexts, IsPlain entry.2)
    ⟨fun ⟨named, declared, distinct, trailing, described, plain, unshaped, commented, plainTexts⟩ =>
      ⟨named, declared, distinct, trailing, described, plain, unshaped, commented, plainTexts⟩,
    fun holds => ⟨holds.named, holds.declared, holds.distinct, holds.trailing, holds.described, holds.plain,
      holds.unshaped, holds.commented, holds.plainTexts⟩⟩

/-- Two specs with equal fields. In which order the texts of the arguments are listed says nothing. -/
structure Spec.Agrees (spec other : Spec) : Prop where
  name : spec.name = other.name
  arguments : spec.arguments = other.arguments
  description : spec.description = other.description
  texts : spec.argumentTexts.Perm other.argumentTexts
  optional : spec.optional = other.optional

def Spec.inOrder (spec : Spec) : Spec :=
  { spec with argumentTexts := spec.arguments.map fun argument => (argument, spec.argumentText argument) }

def Spec.draft (spec : Spec) (block : List String) : Draft :=
  { block := block, description := [spec.description], arguments := spec.inOrder.argumentTexts }

namespace Spec.Declarable

variable {spec : Spec} (declarable : spec.Declarable)

include declarable

theorem argumentText_mem {entry : String × String} (held : entry ∈ spec.argumentTexts) :
    spec.argumentText entry.1 = entry.2 := by
  have distinct : spec.argumentTexts.names.Nodup := declarable.commented.nodup_iff.2 declarable.distinct
  rw [argumentText, Table.lookup_of_mem distinct held, Option.getD_some]

theorem agrees_inOrder : spec.inOrder.Agrees spec := by
  have listed : spec.argumentTexts.names.map (fun argument => (argument, spec.argumentText argument)) =
      spec.argumentTexts := by
    rw [Table.names, List.map_map]
    refine (List.map_congr_left fun entry held => ?_).trans (List.map_id _)
    simp [declarable.argumentText_mem held]
  have texts := declarable.commented.symm.map fun argument => (argument, spec.argumentText argument)
  rw [listed] at texts
  exact ⟨rfl, rfl, rfl, texts, rfl⟩

theorem isPlain_argumentText {argument : String} (held : argument ∈ spec.arguments) :
    IsPlain (spec.argumentText argument) := by
  obtain ⟨entry, among, rfl⟩ := List.mem_map.1 (declarable.commented.mem_iff.2 held)
  rw [declarable.argumentText_mem among]
  exact declarable.plainTexts entry among

theorem filter_isOptional : spec.arguments.filter spec.isOptional = spec.optional := by
  obtain ⟨before, split⟩ := declarable.trailing
  have distinct := declarable.distinct
  rw [← split, List.nodup_append] at distinct
  have first : before.filter spec.isOptional = [] := by
    apply List.filter_eq_nil_iff.2
    intro argument held optional
    exact distinct.2.2 argument held argument (by simpa [isOptional] using optional) rfl
  have last : spec.optional.filter spec.isOptional = spec.optional := by
    apply List.filter_eq_self.2
    intro argument held
    simpa [isOptional] using held
  rw [← split, List.filter_append, first, last, List.nil_append]

theorem checked_inOrder : spec.inOrder.checked = .ok spec.inOrder := by
  obtain ⟨before, split⟩ := declarable.trailing
  have last : lastArguments spec.arguments spec.optional.length = spec.optional := by
    rw [lastArguments, ← split, List.length_append, if_pos (by omega), Nat.add_sub_cancel, List.drop_left]
  have trails : spec.inOrder.optionalTrails = true := by
    simp [optionalTrails, inOrder, last]
  rw [checked, if_pos trails]

theorem comment_description (block : List String) :
    Draft.comment { block := block } spec.description.toList =
      .ok { block := block, description := [spec.description] } := by
  have unshaped : argumentComment? spec.description.toList = none := by
    rw [← Option.not_isSome_iff_eq_none, isSome_argumentComment?_iff]
    exact declarable.unshaped
  have filled : spec.description.toList.isEmpty = false := by simpa using declarable.described
  rw [Draft.comment, unshaped]
  simp [filled]

theorem complete_inOrder (block : List String) :
    (spec.draft block).complete spec.name spec.inner = .ok spec.inOrder := by
  have commented : spec.inOrder.argumentTexts.map Prod.fst = spec.arguments := by
    simp [inOrder, Function.comp_def]
  have table : Table.ofEntries spec.inOrder.argumentTexts = spec.inOrder.argumentTexts := by
    apply Table.ofEntries_of_nodup
    rw [Table.names, commented]
    exact declarable.distinct
  unfold Draft.complete draft
  simp only [signatureNames_inner declarable.declared, find?_starred declarable.declared,
    map_starred declarable.declared, filter_starred declarable.declared, declarable.filter_isOptional, commented, table]
  have one : " ".intercalate [spec.description] = spec.description := by simp
  have fields : (Spec.mk spec.name spec.arguments spec.description spec.inOrder.argumentTexts spec.optional).checked =
      .ok spec.inOrder := declarable.checked_inOrder
  rw [if_neg (by simp), if_neg (fun differ => differ rfl), one, fields]

end Spec.Declarable

theorem declarationsFrom_filter (draft : Draft) (lines : List String) :
    declarationsFrom draft (lines.filter isInked) = declarationsFrom draft lines := by
  induction lines generalizing draft with
  | nil => rfl
  | cons line rest ih =>
    by_cases blank : Text.isBlankText line = true
    · rw [declarationsFrom, if_pos blank, ← ih, List.filter_cons_of_neg (by simp [isInked, blank])]
    · rw [List.filter_cons_of_pos (by simp [isInked, blank]), declarationsFrom, declarationsFrom, if_neg blank,
        if_neg blank]
      simp only [ih]

theorem dropBlanks_of_isBlankText {line : String} (blank : Text.isBlankText line = true) :
    dropBlanks line.toList = [] := by
  have all : ∀ c ∈ line.toList, isBlank c = true := List.all_eq_true.1 blank
  calc
    dropBlanks line.toList = (line.toList ++ []).dropWhile isBlank := by rw [List.append_nil]; rfl
    _ = [] := List.dropWhile_append_of_pos all

theorem declarationsFrom_comment {draft next : Draft} {line : String} {text : List Char}
    (comment : commentText? line.toList = some text)
    (added : { draft with block := draft.block ++ [line] }.comment text = .ok next) (rest : List String) :
    declarationsFrom draft (line :: rest) = declarationsFrom next rest := by
  have inked : ¬Text.isBlankText line = true := by
    intro blank
    rw [commentText?, dropBlanks_of_isBlankText blank] at comment
    cases comment
  rw [declarationsFrom, if_neg inked]
  simp only [comment, added]
  rfl

theorem declarationsFrom_argumentLines {texts : String → String} {arguments : List String}
    (declared : ∀ argument ∈ arguments, isDeclaredName argument.toList = true)
    (plain : ∀ argument ∈ arguments, IsPlain (texts argument)) (draft : Draft) (rest : List String) :
    declarationsFrom draft ((arguments.map fun argument => argumentLine argument (texts argument)) ++ rest) =
      declarationsFrom { draft with
        block := draft.block ++ arguments.map fun argument => argumentLine argument (texts argument)
        arguments := draft.arguments ++ arguments.map fun argument => (argument, texts argument) } rest := by
  induction arguments generalizing draft with
  | nil => simp
  | cons argument arguments ih =>
    obtain ⟨text, comment, read⟩ := Option.bind_eq_some_iff.1 (argumentComment?_argumentLine
      (declared argument List.mem_cons_self) (plain argument List.mem_cons_self))
    have added (draft : Draft) : draft.comment text =
        .ok { draft with arguments := draft.arguments ++ [(argument, texts argument)] } := by
      rw [Draft.comment, read]
    rw [List.map_cons, List.cons_append, declarationsFrom_comment comment (added _),
      ih (fun other held => declared other (List.mem_cons_of_mem _ held))
        (fun other held => plain other (List.mem_cons_of_mem _ held))]
    simp

/-- A declaration is read as its spec, and then the others are read. -/
theorem declarationsFrom_declaration {spec : Spec} (declarable : spec.Declarable) (rest : List String) :
    declarationsFrom {} (spec.declaration ++ rest) = (declarationsFrom {} rest).map (spec.inOrder :: ·) := by
  have comment : commentText? ("// " ++ spec.description).toList = some spec.description.toList := by
    have chars : ("// " ++ spec.description).toList = '/' :: '/' :: ' ' :: spec.description.toList := by simp
    rw [chars, commentText?_slashes, Text.trimEndList_of_trimmed declarable.plain.trimmed]
  obtain ⟨uncommented, signs⟩ := signature?_signature declarable.declared declarable.named
  have inked : ¬Text.isBlankText ("fn " ++ spec.signature) = true := by
    intro blank
    have none := dropBlanks_of_isBlankText blank
    rw [String.toList_append] at none
    cases none
  have signed (block : List String) : declarationsFrom (spec.draft block) (("fn " ++ spec.signature) :: rest) =
      (declarationsFrom {} rest).map (spec.inOrder :: ·) := by
    have extended : { spec.draft block with block := (spec.draft block).block ++ ["fn " ++ spec.signature] } =
        spec.draft (block ++ ["fn " ++ spec.signature]) := rfl
    rw [declarationsFrom, if_neg inked]
    simp only [uncommented, signs, extended, declarable.complete_inOrder]
    cases declarationsFrom {} rest <;> rfl
  rw [Spec.declaration, List.cons_append, List.cons_append, List.append_assoc,
    declarationsFrom_comment comment (declarable.comment_description _)]
  have lines := declarationsFrom_argumentLines declarable.declared (fun _ held => declarable.isPlain_argumentText held)
    { block := ["// " ++ spec.description], description := [spec.description] } (("fn " ++ spec.signature) :: rest)
  exact lines.trans (signed _)

/-- Each line of a declaration is one line. -/
theorem Spec.Declarable.isOneLine_of_mem {spec : Spec} (declarable : spec.Declarable) {line : String}
    (held : line ∈ spec.declaration) : isOneLine line = true := by
  have comment : isOneLine "// " = true := by decide
  simp only [declaration, List.mem_append, List.mem_cons, List.not_mem_nil, or_false, List.mem_map] at held
  rcases held with (rfl | ⟨argument, among, rfl⟩) | rfl
  · rw [Text.isOneLine_append, comment, declarable.plain.1]
    rfl
  · have separator : isOneLine ": " = true := by decide
    simp only [Text.isOneLine_append, comment, isOneLine_of_isDeclaredName (declarable.declared argument among),
      separator, (declarable.isPlain_argumentText among).1]
    rfl
  · have keyword : isOneLine "fn " = true := by decide
    rw [Text.isOneLine_append, keyword, isOneLine_signature declarable.declared declarable.named]
    rfl

/-- Specs that declarations can say are read back from their declarations, in order and with equal fields, wherever
blank lines stand between the others. -/
theorem declarations_declaration (specs : List Spec) (declarable : ∀ spec ∈ specs, spec.Declarable)
    (lines : List String) (written : lines.filter isInked = specs.flatMap Spec.declaration) :
    ∃ read, declarations ("\n".intercalate lines) = .ok read ∧ List.Forall₂ Spec.Agrees read specs := by
  have parts : declarationsFrom {} (specs.flatMap Spec.declaration) = .ok (specs.map Spec.inOrder) := by
    clear written
    induction specs with
    | nil => rfl
    | cons spec rest ih =>
      rw [List.flatMap_cons, declarationsFrom_declaration (declarable spec List.mem_cons_self),
        ih fun other held => declarable other (List.mem_cons_of_mem _ held)]
      rfl
  have one : ∀ line ∈ lines, isInked line = true → isOneLine line = true := by
    intro line held inked
    have among : line ∈ specs.flatMap Spec.declaration := by
      rw [← written]
      exact List.mem_filter.2 ⟨held, inked⟩
    obtain ⟨spec, there, within⟩ := List.mem_flatMap.1 among
    exact (declarable spec there).isOneLine_of_mem within
  refine ⟨specs.map Spec.inOrder, ?_, ?_⟩
  · calc
      declarations ("\n".intercalate lines)
        = declarationsFrom {} ((Text.lines ("\n".intercalate lines)).filter isInked) :=
          (declarationsFrom_filter _ _).symm
      _ = declarationsFrom {} (specs.flatMap Spec.declaration) := by rw [Text.filter_lines_intercalate one, written]
      _ = .ok (specs.map Spec.inOrder) := parts
  · rw [List.forall₂_map_left_iff, List.forall₂_same]
    exact fun spec held => (declarable spec held).agrees_inOrder

def quotientSpec : Spec where
  name := "quotient"
  arguments := ["of", "by"]
  description := "* of / by: rounded"
  argumentTexts := [("by", ""), ("of", ": the dividend")]
  optional := ["by"]

def keywordSpec : Spec := { name := "fn", description := "/// and more" }

def quotientLines : List String :=
  ["", "// * of / by: rounded", "// of: : the dividend", "\t", "// by: ", "fn quotient(of, *by)", " ",
    "// /// and more", "fn fn()", ""]

theorem declarations_quotientLines :
    (∀ spec ∈ [quotientSpec, keywordSpec], spec.Declarable) ∧
      quotientLines.filter isInked = [quotientSpec, keywordSpec].flatMap Spec.declaration ∧
      ∃ read, declarations ("\n".intercalate quotientLines) = .ok read ∧
        List.Forall₂ Spec.Agrees read [quotientSpec, keywordSpec] := by
  have declarable : ∀ spec ∈ [quotientSpec, keywordSpec], spec.Declarable := by decide
  have written : quotientLines.filter isInked = [quotientSpec, keywordSpec].flatMap Spec.declaration := by decide
  exact ⟨declarable, written, declarations_declaration _ declarable _ written⟩

end Parley.Tool

