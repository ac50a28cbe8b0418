import Parley.Extraction.Binding
import Parley.Proofs.Json.Writing
import Parley.Proofs.Text.Trimming

namespace Parley.Extraction

/-- Some characters lead from one state to another, and none of them is read outside quotes. -/
inductive Hides : Quoting → List Char → Quoting → Prop where
  | nil (state : Quoting) : Hides state [] state
  | cons {state final : Quoting} {c : Char} {cs : List Char} (quoted : state ≠ .outside)
      (rest : Hides (state.next c) cs final) : Hides state (c :: cs) final

namespace Hides

variable {state middle final : Quoting} {first second : List Char}

theorem append (before : Hides state first middle) (after : Hides middle second final) :
    Hides state (first ++ second) final := by
  induction before with
  | nil => exact after
  | cons quoted _ ih => exact .cons quoted (ih after)

theorem enclosedFrom (hides : Hides state first final) (depth : Nat) (rest : List Char) :
    enclosedFrom state depth (first ++ rest) =
      (Extraction.enclosedFrom final depth rest).map fun found => (first ++ found.1, found.2) := by
  induction hides with
  | nil => simp
  | cons quoted _ ih =>
    simp only [List.cons_append, Extraction.enclosedFrom, quoted, if_false, ih, Option.map_map]
    rfl

theorem piecesFrom (hides : Hides state first final) (depth : Int) (piece rest : List Char) :
    piecesFrom state depth piece (first ++ rest) = Extraction.piecesFrom final depth (first.reverse ++ piece) rest := by
  induction hides generalizing piece with
  | nil => rfl
  | cons quoted _ ih =>
    simp only [List.cons_append, Extraction.piecesFrom, quoted, decide_false, Bool.false_and, Bool.false_eq_true, if_false,
      Int.add_zero, ih, List.reverse_cons, List.append_assoc, List.nil_append]

end Hides

theorem hides_plain {cs : List Char} (plain : ∀ c ∈ cs, c ≠ '"' ∧ c ≠ '\\') :
    Hides (.inside '"') cs (.inside '"') := by
  induction cs with
  | nil => exact .nil _
  | cons c cs ih =>
    obtain ⟨unquoted, unescaped⟩ := plain c List.mem_cons_self
    refine .cons (by simp) ?_
    simp only [Quoting.next, unquoted, unescaped, if_false]
    exact ih fun c held => plain c (List.mem_cons_of_mem _ held)

theorem hides_escape {cs : List Char} {c : Char} (rest : Hides (.inside '"') cs (.inside '"')) :
    Hides (.inside '"') ('\\' :: c :: cs) (.inside '"') := .cons (by simp) (.cons (by simp [Quoting.next]) rest)

theorem mem_hexDigits {width unit : Nat} {c : Char} (held : c ∈ Text.hexDigits width unit) :
    ∃ value < 16, c = Text.hexDigit value := by
  induction width generalizing unit with
  | zero => cases held
  | succ width ih =>
    obtain before | last := List.mem_append.1 held
    · exact ih before
    · exact ⟨_, Nat.mod_lt _ (by decide), List.mem_singleton.1 last⟩

theorem hides_writtenUnits (units : List Nat) :
    Hides (.inside '"') (units.flatMap Json.writtenUnit) (.inside '"') := by
  induction units with
  | nil => exact .nil _
  | cons unit units ih =>
    refine Hides.append (hides_escape (hides_plain fun c held => ?_)) ih
    obtain ⟨value, small, rfl⟩ := mem_hexDigits held
    have plain : ∀ value < 16, Text.hexDigit value ≠ '"' ∧ Text.hexDigit value ≠ '\\' := by decide
    exact plain value small

theorem hides_writtenChar (c : Char) : Hides (.inside '"') (Json.writtenChar c) (.inside '"') := by
  obtain ⟨e, _, same⟩ | ⟨unquoted, unescaped, _, _, same⟩ | same := Json.writtenChar_cases c
  · rw [same]
    exact hides_escape (.nil _)
  · rw [same]
    refine hides_plain fun other held => ?_
    obtain rfl := List.mem_singleton.1 held
    exact ⟨unquoted, unescaped⟩
  · rw [same]
    exact hides_writtenUnits _

theorem hides_written (cs : List Char) :
    Hides (.inside '"') (cs.flatMap Json.writtenChar ++ ['"']) .outside := by
  have closes : Hides (.inside '"') ['"'] .outside := .cons (by simp) (.nil _)
  induction cs with
  | nil => exact closes
  | cons c cs ih =>
    rw [List.flatMap_cons, List.append_assoc]
    exact (hides_writtenChar c).append ih

def Passed (cs : List Char) : Prop :=
  ∀ depth rest, enclosedFrom .outside depth (cs ++ rest) =
    (enclosedFrom .outside depth rest).map fun found => (cs ++ found.1, found.2)

def Kept (cs : List Char) : Prop :=
  ∀ piece rest, piecesFrom .outside 0 piece (cs ++ rest) = piecesFrom .outside 0 (cs.reverse ++ piece) rest

theorem passed_nil : Passed [] := fun depth rest => by simp

theorem Passed.append {first second : List Char} (before : Passed first) (after : Passed second) :
    Passed (first ++ second) := by
  intro depth rest
  rw [List.append_assoc, before, after, Option.map_map]
  simp only [Function.comp_def, List.append_assoc]

theorem Kept.append {first second : List Char} (before : Kept first) (after : Kept second) :
    Kept (first ++ second) := by
  intro piece rest
  rw [List.append_assoc, before, after, List.reverse_append, List.append_assoc]

theorem passed_singleton {c : Char} (unquoted : isQuote c = false) (opens : c ≠ '(') (closes : c ≠ ')') :
    Passed [c] := by
  intro depth rest
  have stays : Quoting.outside.next c = .outside := by simp [Quoting.next, unquoted]
  simp only [List.cons_append, List.nil_append, enclosedFrom, if_true, opens, closes, if_false, stays]

theorem kept_singleton {c : Char} (unquoted : isQuote c = false) (level : depthChange c = 0) (other : c ≠ ',') :
    Kept [c] := by
  intro piece rest
  have stays : Quoting.outside.next c = .outside := by simp [Quoting.next, unquoted]
  simp only [List.cons_append, List.nil_append, piecesFrom, other, decide_false, Bool.and_false, Bool.false_eq_true,
    if_false, if_true, level, stays, Int.add_zero, List.reverse_cons, List.reverse_nil]

/-- A text as a part of a call: both scans take it whole, and there are no blanks around it. -/
structure Part (cs : List Char) : Prop where
  passed : Passed cs
  kept : Kept cs
  filled : cs ≠ []
  trimmed : Text.trimList cs = cs

theorem writtenText_eq (text : String) :
    Json.writtenText text = '"' :: (text.toList.flatMap Json.writtenChar ++ ['"']) := rfl

theorem part_writtenText (text : String) : Part (Json.writtenText text) where
  passed := by
    intro depth rest
    have reads : enclosedFrom .outside depth ('"' :: (text.toList.flatMap Json.writtenChar ++ ['"'] ++ rest)) =
        (enclosedFrom (.inside '"') depth (text.toList.flatMap Json.writtenChar ++ ['"'] ++ rest)).map fun found =>
          ('"' :: found.1, found.2) := rfl
    rw [writtenText_eq, List.cons_append, reads, (hides_written _).enclosedFrom, Option.map_map]
    rfl
  kept := by
    intro piece rest
    have reads : piecesFrom .outside 0 piece ('"' :: (text.toList.flatMap Json.writtenChar ++ ['"'] ++ rest)) =
        piecesFrom (.inside '"') 0 ('"' :: piece) (text.toList.flatMap Json.writtenChar ++ ['"'] ++ rest) := rfl
    rw [writtenText_eq, List.cons_append, reads, (hides_written _).piecesFrom]
    simp only [List.reverse_cons, List.append_assoc, List.cons_append, List.nil_append]
  filled := by simp [Json.writtenText]
  trimmed := Text.trimList_between _ (by decide) (by decide)

def joined (parts : List (List Char)) : List Char := List.intercalate [',', ' '] parts

theorem joined_cons_cons (first second : List Char) (rest : List (List Char)) :
    joined (first :: second :: rest) = first ++ ([',', ' '] ++ joined (second :: rest)) := by
  simp [joined, List.intercalate_cons_cons]

theorem piecesFrom_joined {first : List Char} {rest : List (List Char)} (solid : ∀ part ∈ first :: rest, Part part)
    (piece : List Char) :
    piecesFrom .outside 0 piece (joined (first :: rest)) = (piece.reverse ++ first) :: rest.map (' ' :: ·) := by
  have here := (solid first List.mem_cons_self).kept
  induction rest generalizing first piece with
  | nil => simpa [joined, piecesFrom] using here piece []
  | cons next rest ih =>
    have others : ∀ part ∈ next :: rest, Part part := fun part held => solid part (List.mem_cons_of_mem _ held)
    have later := ih others [' '] (others next List.mem_cons_self).kept
    have blank : Kept [' '] := kept_singleton rfl rfl (by decide)
    have comma (piece rest : List Char) :
        piecesFrom .outside 0 piece (',' :: rest) = piece.reverse :: piecesFrom .outside 0 [] rest := by
      simp [piecesFrom]
    rw [joined_cons_cons, here, List.cons_append, comma, blank, List.append_nil, List.reverse_singleton, later]
    simp

section

variable {parts : List (List Char)} (solid : ∀ part ∈ parts, Part part)

include solid

theorem passed_joined : Passed (joined parts) := by
  induction parts with
  | nil => exact passed_nil
  | cons part rest ih =>
    have first := (solid part List.mem_cons_self).passed
    cases rest with
    | nil => simpa [joined] using first
    | cons next rest =>
      have comma : Passed [',', ' '] :=
        (passed_singleton rfl (by decide) (by decide)).append (passed_singleton (c := ' ') rfl (by decide) (by decide))
      rw [joined_cons_cons]
      exact first.append (comma.append (ih fun part held => solid part (List.mem_cons_of_mem _ held)))

theorem enclosed?_joined (rest : List Char) : enclosed? (joined parts ++ ')' :: rest) = some (joined parts, rest) := by
  rw [enclosed?, passed_joined solid]
  simp [enclosedFrom]

theorem splitArguments_joined : splitArguments (joined parts) = parts := by
  cases all : parts with
  | nil => rfl
  | cons first rest =>
    have trims : (rest.map (' ' :: ·)).map Text.trimList = rest := by
      rw [List.map_map]
      refine (List.map_congr_left fun part held => ?_).trans (List.map_id _)
      have trimmed := (solid part (by simp [all, held])).trimmed
      have drops : Text.trimList (' ' :: part) = Text.trimList part := by
        simp [Text.trimList, Text.trimBy, show Text.isBlank ' ' = true from rfl]
      exact drops.trans trimmed
    have here := solid first (by simp [all])
    have apart : pieces (joined parts) = first :: rest.map (' ' :: ·) := by
      rw [all, pieces, piecesFrom_joined (all ▸ solid)]
      rfl
    rw [← all, splitArguments, apart, List.map_cons, trims, here.trimmed]
    split
    next single => exact absurd (List.cons.inj single).1 here.filled
    next => exact all.symm

end

end Parley.Extraction

