import Parley.Proofs.Failing
import Parley.Proofs.Tool.Roundtrip

namespace Parley.Tool

open Text (isInked)

/-- What a line makes of the draft that it finds: the draft for the lines below, and the spec that it completes. -/
def Draft.read (draft : Draft) (line : String) : Except Failure (Draft × List Spec) :=
  if Text.isBlankText line then .ok (draft, [])
  else
    let extended := { draft with block := draft.block ++ [line] }
    match commentText? line.toList, signature? line.toList with
    | some text, _ => (extended.comment text).map fun next => (next, [])
    | none, some (name, inner) => (extended.complete name inner).map fun spec => ({}, [spec])
    | none, none => extended.fail s!"Unrecognised line: {Text.trim line}"

theorem declarationsFrom_cons (draft : Draft) (line : String) (rest : List String) :
    declarationsFrom draft (line :: rest) = (do
      let (next, specs) ← draft.read line
      (declarationsFrom next rest).map (specs ++ ·)) := by
  have same (result : Except Failure (List Spec)) : result.map ([] ++ ·) = result := by cases result <;> rfl
  rw [declarationsFrom, Draft.read]
  by_cases blank : Text.isBlankText line = true
  · rw [if_pos blank, if_pos blank]
    exact (same _).symm
  rw [if_neg blank, if_neg blank]
  cases comment : commentText? line.toList with
  | some text =>
    dsimp only
    cases Draft.comment { draft with block := draft.block ++ [line] } text with
    | error failure => rfl
    | ok next => exact (same _).symm
  | none =>
    cases signed : signature? line.toList with
    | none => rfl
    | some found =>
      dsimp only
      cases Draft.complete { draft with block := draft.block ++ [line] } found.1 found.2 with
      | error failure => rfl
      | ok spec =>
        change (do return spec :: (← declarationsFrom {} rest)) = (declarationsFrom {} rest).map ([spec] ++ ·)
        cases declarationsFrom {} rest <;> rfl

/-- A draft without lines holds nothing else either. -/
def Draft.Settled (draft : Draft) : Prop := draft.block = [] → draft = {}

theorem Draft.settled_empty : Draft.Settled {} := fun _ => rfl

theorem Draft.block_of_comment {draft next : Draft} {text : List Char} (added : draft.comment text = .ok next) :
    next.block = draft.block := by
  rw [comment] at added
  split at added
  next => rw [← Except.ok.inj added]
  next =>
    split at added
    next => cases added
    next =>
      split at added
      next => rw [← Except.ok.inj added]
      next => rw [← Except.ok.inj added]

theorem Draft.Settled.read {draft next : Draft} {line : String} {specs : List Spec} (settled : draft.Settled)
    (taken : draft.read line = .ok (next, specs)) : next.Settled := by
  rw [Draft.read] at taken
  split at taken
  next =>
    obtain ⟨rfl, -⟩ := Prod.mk.inj (Except.ok.inj taken)
    exact settled
  next =>
    split at taken
    next =>
      obtain ⟨commented, added, same⟩ := map_eq_ok.1 taken
      obtain ⟨rfl, -⟩ := Prod.mk.inj same
      intro none
      rw [block_of_comment added] at none
      simp at none
    next =>
      obtain ⟨spec, -, same⟩ := map_eq_ok.1 taken
      obtain ⟨rfl, -⟩ := Prod.mk.inj same
      exact settled_empty
    next => cases taken

/-- Lines that are read to their end leave an empty draft to the lines behind them. -/
theorem declarationsFrom_append {draft : Draft} {lines : List String} {specs : List Spec} (settled : draft.Settled)
    (read : declarationsFrom draft lines = .ok specs) (others : List String) :
    declarationsFrom draft (lines ++ others) = (declarationsFrom {} others).map (specs ++ ·) := by
  -- Each line leaves a settled draft, and where the lines end well that draft has no lines, so it is empty.
  induction lines generalizing draft specs with
  | nil =>
    rw [declarationsFrom] at read
    split at read
    next none =>
      obtain rfl := Except.ok.inj read
      rw [settled (List.isEmpty_iff.1 none), List.nil_append]
      cases declarationsFrom {} others <;> rfl
    next => cases read
  | cons line rest ih =>
    rw [declarationsFrom_cons] at read
    obtain ⟨⟨next, done⟩, taken, following⟩ := bind_eq_ok.1 read
    obtain ⟨later, readLater, rfl⟩ := map_eq_ok.1 following
    rw [List.cons_append, declarationsFrom_cons, taken]
    calc
      (declarationsFrom next (rest ++ others)).map (done ++ ·)
        = ((declarationsFrom {} others).map (later ++ ·)).map (done ++ ·) := by rw [ih (settled.read taken) readLater]
      _ = (declarationsFrom {} others).map (done ++ later ++ ·) := by
        cases declarationsFrom {} others with
        | error failure => rfl
        | ok specs => simp [Except.map]

/-- A failure that says of a declaration what is wrong with it. -/
def IsMisdeclared (failure : Failure) : Prop := ∃ declaration issue, failure = .declaration declaration issue

theorem Draft.fail_misdeclared {α : Type} (draft : Draft) (issue : String) :
    FailsOnly IsMisdeclared (draft.fail issue : Except Failure α) :=
  failsOnly_error ⟨_, _, rfl⟩

theorem Draft.comment_misdeclared (draft : Draft) (text : List Char) :
    FailsOnly IsMisdeclared (draft.comment text) := by
  rw [comment]
  split
  next => exact failsOnly_ok _
  next =>
    split
    next => exact draft.fail_misdeclared _
    next => split <;> exact failsOnly_ok _

theorem Draft.complete_misdeclared (draft : Draft) (name : String) (inner : List Char) :
    FailsOnly IsMisdeclared (draft.complete name inner) := by
  simp only [complete]
  split
  next => exact draft.fail_misdeclared _
  next =>
    split
    next => exact draft.fail_misdeclared _
    next =>
      split
      next => exact draft.fail_misdeclared _
      next =>
        split
        next => exact failsOnly_ok _
        next => exact draft.fail_misdeclared _

theorem Draft.read_misdeclared (draft : Draft) (line : String) : FailsOnly IsMisdeclared (draft.read line) := by
  rw [read]
  split
  next => exact failsOnly_ok _
  next =>
    dsimp only
    split
    next => exact (comment_misdeclared _ _).map
    next => exact (complete_misdeclared _ _ _).map
    next => exact fail_misdeclared _ _

/-- Whatever the lines are, reading them fails in one way only. -/
theorem declarationsFrom_misdeclared (draft : Draft) (lines : List String) :
    FailsOnly IsMisdeclared (declarationsFrom draft lines) := by
  induction lines generalizing draft with
  | nil =>
    rw [declarationsFrom]
    split
    next => exact failsOnly_ok _
    next => exact draft.fail_misdeclared _
  | cons line rest ih =>
    rw [declarationsFrom_cons]
    exact (draft.read_misdeclared line).bind fun taken => (ih taken.1).map

theorem declarations_misdeclared (text : String) : FailsOnly IsMisdeclared (declarations text) :=
  declarationsFrom_misdeclared _ _

/-- As far as they are not blank, the lines of two texts with a line feed between them are those of the one and then
those of the other. -/
theorem filter_lines_lineFeed (first second : String) :
    (Text.lines (first ++ "\n" ++ second)).filter isInked =
      (Text.lines first).filter isInked ++ (Text.lines second).filter isInked := by
  have chars : (first ++ "\n" ++ second).toList = first.toList ++ '\n' :: second.toList := by simp
  rw [Text.filter_lines, Text.filter_lines, Text.filter_lines, chars, Text.linesOfList,
    Text.filter_linesFrom_lineFeed, List.map_append]
  rfl

/-- Behind a text that can be read, the declarations of another text are read as if they stood alone: their specs come
behind those of the first text, and what is wrong with them is said in the same words. -/
theorem declarations_lineFeed {first second : String} {specs : List Spec} (read : declarations first = .ok specs) :
    (∃ others, declarations second = .ok others ∧
      declarations (first ++ "\n" ++ second) = .ok (specs ++ others)) ∨
    ∃ declaration issue, declarations second = .error (.declaration declaration issue) ∧
      declarations (first ++ "\n" ++ second) = .error (.declaration declaration issue) := by
  have inked : declarationsFrom {} ((Text.lines first).filter isInked) = .ok specs := by
    rw [declarationsFrom_filter]
    exact read
  have both : declarations (first ++ "\n" ++ second) = (declarations second).map (specs ++ ·) := calc
    declarations (first ++ "\n" ++ second)
      = declarationsFrom {} ((Text.lines (first ++ "\n" ++ second)).filter isInked) :=
        (declarationsFrom_filter _ _).symm
    _ = declarationsFrom {} ((Text.lines first).filter isInked ++ (Text.lines second).filter isInked) := by
      rw [filter_lines_lineFeed]
    _ = (declarationsFrom {} ((Text.lines second).filter isInked)).map (specs ++ ·) :=
      declarationsFrom_append Draft.settled_empty inked _
    _ = (declarations second).map (specs ++ ·) := by rw [declarationsFrom_filter, declarations]
  cases alone : declarations second with
  | ok others => exact .inl ⟨others, rfl, by rw [both, alone]; rfl⟩
  | error failure =>
    obtain ⟨declaration, issue, rfl⟩ := declarations_misdeclared second failure alone
    exact .inr ⟨declaration, issue, rfl, by rw [both, alone]; rfl⟩

/-- A declaration behind which a carriage return takes the line feed that follows for its own. -/
def negationText : String := "\n// The number with the other sign.\n// of:\nfn negation(*of);\r"

def negationSpec : Spec where
  name := "negation"
  arguments := ["of"]
  description := "The number with the other sign."
  argumentTexts := [("of", "")]
  optional := ["of"]

theorem declarations_negationText :
    declarations negationText = .ok [negationSpec] ∧
      ((∃ others, declarations "// of: a number\nfn half(of)" = .ok others ∧
          declarations (negationText ++ "\n" ++ "// of: a number\nfn half(of)") = .ok ([negationSpec] ++ others)) ∨
        ∃ declaration issue,
          declarations "// of: a number\nfn half(of)" = .error (.declaration declaration issue) ∧
            declarations (negationText ++ "\n" ++ "// of: a number\nfn half(of)") =
              .error (.declaration declaration issue)) := by
  have declared : declarations negationText = .ok [negationSpec] := eq_ok_of_toOption (by decide +kernel)
  exact ⟨declared, declarations_lineFeed declared⟩

end Parley.Tool

