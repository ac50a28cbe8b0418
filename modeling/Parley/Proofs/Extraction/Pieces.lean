import Parley.Proofs.Extraction.Scanning

namespace Parley.Extraction

def Quoting.after (state : Quoting) (cs : List Char) : Quoting := cs.foldl Quoting.next state

/-- What a character adds to the bracket depth; nothing between quotes. -/
def Quoting.change (state : Quoting) (c : Char) : Int := if state = .outside then depthChange c else 0

def bracketSurplus : Quoting → List Char → Int
  | _, [] => 0
  | state, c :: rest => state.change c + bracketSurplus (state.next c) rest

/-- A comma after some characters separates two arguments: it stands outside quotes, where all brackets are closed. -/
structure Separates (state : Quoting) (depth : Int) (before : List Char) : Prop where
  unquoted : state.after before = .outside
  level : depth + bracketSurplus state before = 0

/-- Some pieces come apart between two texts: the first of them, joined by commas, are the one text, and the others are
the other. -/
def Cuts (parts : List (List Char)) (before after : List Char) : Prop :=
  ∃ first second, first ≠ [] ∧ second ≠ [] ∧ parts = first ++ second ∧ List.intercalate [','] first = before ∧
    List.intercalate [','] second = after

section

variable {state : Quoting} {depth : Int} {piece : List Char}

@[simp]
theorem Quoting.after_nil : state.after [] = state := rfl

@[simp]
theorem Quoting.after_cons (c : Char) (cs : List Char) : state.after (c :: cs) = (state.next c).after cs := rfl

theorem separates_nil : Separates state depth [] ↔ state = .outside ∧ depth = 0 := by
  refine ⟨fun separates => ⟨separates.unquoted, by simpa [bracketSurplus] using separates.level⟩, ?_⟩
  rintro ⟨rfl, rfl⟩
  exact ⟨rfl, rfl⟩

theorem separates_cons {c : Char} {before : List Char} :
    Separates state depth (c :: before) ↔ Separates (state.next c) (depth + state.change c) before := by
  constructor
  · intro separates
    exact ⟨separates.unquoted, by simpa [bracketSurplus, Int.add_assoc] using separates.level⟩
  · intro separates
    exact ⟨separates.unquoted, by simpa [bracketSurplus, Int.add_assoc] using separates.level⟩

theorem piecesFrom_comma (rest : List Char) :
    piecesFrom .outside 0 piece (',' :: rest) = piece.reverse :: pieces rest := by
  simp [piecesFrom, pieces]

theorem piecesFrom_other {c : Char} (other : ¬(state = .outside ∧ depth = 0 ∧ c = ',')) (rest : List Char) :
    piecesFrom state depth piece (c :: rest) = piecesFrom (state.next c) (depth + state.change c) (c :: piece) rest := by
  have passes : (decide (state = .outside) && decide (depth = 0) && decide (c = ',')) = false := by
    simpa [and_assoc] using other
  rw [piecesFrom, passes]
  rfl

theorem piecesFrom_ne_nil (cs : List Char) : piecesFrom state depth piece cs ≠ [] := by
  induction cs generalizing state depth piece with
  | nil => simp [piecesFrom]
  | cons c rest ih =>
    by_cases comma : state = .outside ∧ depth = 0 ∧ c = ','
    · obtain ⟨rfl, rfl, rfl⟩ := comma
      simp [piecesFrom_comma]
    · rw [piecesFrom_other comma]
      exact ih

theorem intercalate_piecesFrom (cs : List Char) :
    List.intercalate [','] (piecesFrom state depth piece cs) = piece.reverse ++ cs := by
  induction cs generalizing state depth piece with
  | nil => simp [piecesFrom]
  | cons c rest ih =>
    by_cases comma : state = .outside ∧ depth = 0 ∧ c = ','
    · obtain ⟨rfl, rfl, rfl⟩ := comma
      rw [piecesFrom_comma, List.intercalate_cons_of_ne_nil (pieces_ne_nil rest), pieces, ih]
      simp
    · rw [piecesFrom_other comma, ih]
      simp

/-- After some characters the scan has its pieces so far, of which the last is still open, and goes on from the state of
quoting and the bracket depth that the characters lead to. -/
theorem piecesFrom_append (state : Quoting) (depth : Int) (piece first : List Char) :
    ∃ front last, piecesFrom state depth piece first = front ++ [last] ∧
    ∀ second, piecesFrom state depth piece (first ++ second) =
      front ++ piecesFrom (state.after first) (depth + bracketSurplus state first) last.reverse second := by
  induction first generalizing state depth piece with
  | nil => exact ⟨[], piece.reverse, rfl, fun second => by simp [bracketSurplus]⟩
  | cons c first ih =>
    by_cases comma : state = .outside ∧ depth = 0 ∧ c = ','
    · obtain ⟨rfl, rfl, rfl⟩ := comma
      obtain ⟨front, last, sofar, goesOn⟩ := ih .outside 0 []
      refine ⟨piece.reverse :: front, last, by rw [piecesFrom_comma, pieces, sofar]; rfl, fun second => ?_⟩
      rw [List.cons_append, piecesFrom_comma, pieces, goesOn]
      simp [bracketSurplus, Quoting.change, depthChange, show Quoting.outside.next ',' = .outside from rfl]
    · obtain ⟨front, last, sofar, goesOn⟩ := ih (state.next c) (depth + state.change c) (c :: piece)
      refine ⟨front, last, by rw [piecesFrom_other comma, sofar], fun second => ?_⟩
      rw [List.cons_append, piecesFrom_other comma, goesOn, bracketSurplus, Int.add_assoc, Quoting.after_cons]

theorem piecesFrom_of_separates {before : List Char} (separates : Separates state depth before) (after : List Char) :
    piecesFrom state depth piece (before ++ ',' :: after) = piecesFrom state depth piece before ++ pieces after := by
  obtain ⟨front, last, sofar, goesOn⟩ := piecesFrom_append state depth piece before
  rw [goesOn, sofar, separates.unquoted, separates.level, piecesFrom_comma, List.reverse_reverse]
  simp

/-- Where the pieces come apart, a separating comma has cut the text. -/
theorem separates_of_piecesFrom {cs : List Char} {first second : List (List Char)}
    (parts : piecesFrom state depth piece cs = first ++ second) (filled : first ≠ []) (more : second ≠ []) :
    ∃ before after, cs = before ++ ',' :: after ∧ Separates state depth before ∧
      piecesFrom state depth piece before = first ∧ pieces after = second := by
  induction cs generalizing state depth piece first with
  | nil =>
    have lengths := congrArg List.length parts
    have one := List.length_pos_iff.2 filled
    have another := List.length_pos_iff.2 more
    simp only [piecesFrom, List.length_append, List.length_singleton] at lengths
    omega
  | cons c rest ih =>
    by_cases comma : state = .outside ∧ depth = 0 ∧ c = ','
    · obtain ⟨rfl, rfl, rfl⟩ := comma
      rw [piecesFrom_comma] at parts
      cases first with
      | nil => exact absurd rfl filled
      | cons head first =>
        obtain ⟨rfl, tail⟩ := List.cons.inj parts
        by_cases last : first = []
        · subst last
          exact ⟨[], rest, rfl, separates_nil.2 ⟨rfl, rfl⟩, rfl, tail⟩
        · obtain ⟨before, after, rfl, inner, sofar, others⟩ := ih tail last
          refine ⟨',' :: before, after, rfl, separates_cons.2 inner, ?_, others⟩
          rw [piecesFrom_comma, pieces, sofar]
    · rw [piecesFrom_other comma] at parts
      obtain ⟨before, after, rfl, inner, sofar, others⟩ := ih parts filled
      exact ⟨c :: before, after, rfl, separates_cons.2 inner, by rw [piecesFrom_other comma, sofar], others⟩

end

theorem intercalate_pieces (raw : List Char) : List.intercalate [','] (pieces raw) = raw := intercalate_piecesFrom raw

/-- The text is cut at its separating commas and nowhere else. -/
theorem cuts_pieces_iff {raw before after : List Char} :
    Cuts (pieces raw) before after ↔ raw = before ++ ',' :: after ∧ Separates .outside 0 before := by
  constructor
  · rintro ⟨first, second, filled, more, parts, rfl, rfl⟩
    obtain ⟨before, after, rfl, separates, rfl, rfl⟩ := separates_of_piecesFrom parts filled more
    rw [pieces, intercalate_piecesFrom, intercalate_piecesFrom]
    exact ⟨rfl, separates⟩
  · rintro ⟨rfl, separates⟩
    exact ⟨_, _, piecesFrom_ne_nil before, pieces_ne_nil after, piecesFrom_of_separates separates after,
      intercalate_pieces before, intercalate_pieces after⟩

theorem pieces_of_not_mem {raw : List Char} (plain : ',' ∉ raw) : pieces raw = [raw] := by
  have joined := intercalate_pieces raw
  cases parts : pieces raw with
  | nil => exact absurd parts (pieces_ne_nil raw)
  | cons first second =>
    by_cases single : second = []
    · rw [parts, single, List.intercalate_singleton] at joined
      rw [single, joined]
    · have cut : Cuts (pieces raw) first (List.intercalate [','] second) :=
        ⟨[first], second, by simp, single, parts, List.intercalate_singleton, rfl⟩
      refine absurd ?_ plain
      rw [(cuts_pieces_iff.1 cut).1]
      simp

theorem map_trimList_pieces {raw : List Char} :
    (pieces raw).map Text.trimList = [[]] ↔ raw.all Text.isBlank = true := by
  constructor
  · intro nothing
    obtain ⟨piece, single, blank⟩ := List.map_eq_singleton_iff.1 nothing
    have joined := intercalate_pieces raw
    rw [single, List.intercalate_singleton] at joined
    rw [← joined]
    exact Text.trimList_eq_nil_iff.1 blank
  · intro blank
    have plain : ',' ∉ raw := fun held => absurd (List.all_eq_true.1 blank _ held) (by decide)
    rw [pieces_of_not_mem plain, List.map_singleton, Text.trimList_eq_nil_iff.2 blank]

theorem splitArguments_eq (raw : List Char) :
    splitArguments raw = if raw.all Text.isBlank then [] else (pieces raw).map Text.trimList := by
  unfold splitArguments
  split
  next nothing => rw [if_pos (map_trimList_pieces.1 nothing)]
  next some => rw [if_neg fun blank => some (map_trimList_pieces.2 blank)]

theorem splitArguments_eq_nil_iff {raw : List Char} : splitArguments raw = [] ↔ raw.all Text.isBlank = true := by
  rw [splitArguments_eq]
  split
  next blank => simp [blank]
  next filled => simp [filled, pieces_ne_nil]

section

variable {state : Quoting} {depth : Nat} {c : Char} {rest inner after : List Char}

theorem enclosedFrom_cons (found : enclosedFrom state depth (c :: rest) = some (inner, after)) :
    (state = .outside ∧ c = ')' ∧ inner = [] ∧ rest = after) ∨
      ∃ next later, inner = c :: later ∧ enclosedFrom (state.next c) next rest = some (later, after) := by
  have resumed {next : Nat} (goesOn : ((enclosedFrom (state.next c) next rest).map fun found => (c :: found.1, found.2)) =
      some (inner, after)) :
      ∃ next later, inner = c :: later ∧ enclosedFrom (state.next c) next rest = some (later, after) := by
    obtain ⟨⟨later, behind⟩, closes, same⟩ := Option.map_eq_some_iff.1 goesOn
    obtain ⟨rfl, rfl⟩ := Prod.mk.inj same
    exact ⟨next, later, rfl, closes⟩
  unfold enclosedFrom at found
  dsimp only at found
  split at found
  next unquoted =>
    split at found
    next => exact .inr (resumed found)
    next =>
      split at found
      next closes =>
        cases depth with
        | zero =>
          obtain ⟨rfl, rfl⟩ := Prod.mk.inj (Option.some.inj found)
          exact .inl ⟨unquoted, closes, rfl, rfl⟩
        | succ depth => exact .inr (resumed found)
      next => exact .inr (resumed found)
  next => exact .inr (resumed found)

/-- Within a call, the search for its end stands in the state of quoting that the characters so far lead to. -/
theorem enclosedFrom_append {cs first second : List Char}
    (found : enclosedFrom state depth cs = some (first ++ second, after)) :
    ∃ next left, cs = first ++ left ∧ enclosedFrom (state.after first) next left = some (second, after) := by
  induction first generalizing state depth cs with
  | nil => exact ⟨depth, cs, rfl, found⟩
  | cons c first ih =>
    cases cs with
    | nil => cases found
    | cons head rest =>
      obtain ⟨_, _, empty, _⟩ | ⟨next, later, same, goesOn⟩ := enclosedFrom_cons found
      · cases empty
      · obtain ⟨rfl, rfl⟩ := List.cons.inj same
        obtain ⟨last, left, rfl, closes⟩ := ih goesOn
        exact ⟨last, left, rfl, closes⟩

/-- A call closes with a parenthesis outside quotes. -/
theorem closes_outside {cs : List Char} (found : enclosedFrom state depth cs = some ([], after)) :
    state = .outside ∧ cs = ')' :: after := by
  cases cs with
  | nil => cases found
  | cons c rest =>
    obtain ⟨unquoted, rfl, _, rfl⟩ | ⟨_, _, same, _⟩ := enclosedFrom_cons found
    · exact ⟨unquoted, rfl⟩
    · cases same

theorem eq_of_enclosedFrom {cs : List Char} (found : enclosedFrom state depth cs = some (inner, after)) :
    cs = inner ++ ')' :: after ∧ state.after inner = .outside := by
  have all : enclosedFrom state depth cs = some (inner ++ [], after) := by rw [List.append_nil, found]
  obtain ⟨_, left, rfl, closes⟩ := enclosedFrom_append all
  obtain ⟨unquoted, rfl⟩ := closes_outside closes
  exact ⟨rfl, unquoted⟩

end

/-- Both scans of a call stand in one state of quoting after some characters of what it encloses: from that state the one
goes on to the call's end, and from that state the other goes on, whatever it has to read. -/
structure Agree (passed left after : List Char) : Prop where
  closing : ∃ depth, enclosedFrom (Quoting.outside.after passed) depth (left ++ ')' :: after) = some (left, after)
  cutting : ∃ front last, pieces passed = front ++ [last] ∧ ∀ more, pieces (passed ++ more) =
    front ++ piecesFrom (Quoting.outside.after passed) (bracketSurplus .outside passed) last.reverse more

theorem agree_of_enclosed? {rest passed left after : List Char}
    (found : enclosed? rest = some (passed ++ left, after)) : Agree passed left after where
  closing := by
    obtain ⟨depth, others, _, closes⟩ := enclosedFrom_append found
    obtain ⟨same, _⟩ := eq_of_enclosedFrom closes
    exact ⟨depth, same ▸ closes⟩
  cutting := by
    obtain ⟨front, last, sofar, goesOn⟩ := piecesFrom_append .outside 0 [] passed
    exact ⟨front, last, sofar, fun more => by rw [pieces, goesOn, Int.zero_add]⟩

/-- What a call encloses ends outside quotes, and up to there its two scans agree on what is quoted. Every text is cut
exactly at its separating commas, and its written arguments are the pieces without the blanks around them, or none
exactly if the text is blank. -/
theorem call_scans_agree (raw : List Char) :
    (∀ inner after, enclosed? raw = some (inner, after) →
      raw = inner ++ ')' :: after ∧ Quoting.outside.after inner = .outside ∧
      ∀ passed left, inner = passed ++ left → Agree passed left after) ∧
    List.intercalate [','] (pieces raw) = raw ∧
    (∀ before after, Cuts (pieces raw) before after ↔ raw = before ++ ',' :: after ∧ Separates .outside 0 before) ∧
    splitArguments raw = (if raw.all Text.isBlank then [] else (pieces raw).map Text.trimList) ∧
    (splitArguments raw = [] ↔ raw.all Text.isBlank = true) := by
  refine ⟨fun inner after found => ?_, intercalate_pieces raw, fun before after => cuts_pieces_iff,
    splitArguments_eq raw, splitArguments_eq_nil_iff⟩
  obtain ⟨whole, unquoted⟩ := eq_of_enclosedFrom found
  refine ⟨whole, unquoted, ?_⟩
  rintro passed left rfl
  exact agree_of_enclosed? found

theorem quoted_call_scans_agree :
    enclosed? "\"a, (b\", [1, 2]) x".toList = some ("\"a, (b\", [1, 2]".toList, " x".toList) ∧
      Quoting.outside.after "\"a, (b\", [1, 2]".toList = .outside ∧
      splitArguments "\"a, (b\", [1, 2]".toList = ["\"a, (b\"".toList, "[1, 2]".toList] := by
  have found : enclosed? "\"a, (b\", [1, 2]) x".toList = some ("\"a, (b\", [1, 2]".toList, " x".toList) := by
    decide +kernel
  obtain ⟨closes, _⟩ := call_scans_agree "\"a, (b\", [1, 2]) x".toList
  obtain ⟨_, unquoted, _⟩ := closes _ _ found
  exact ⟨found, unquoted, by decide +kernel⟩

end Parley.Extraction

