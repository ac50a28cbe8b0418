import Parley.Proofs.Text.Trimming

namespace Parley.Text

def isOneLine (text : String) : Bool := text.toList.all fun c => !isLineEnd c

theorem isOneLine_append (first second : String) :
    isOneLine (first ++ second) = (isOneLine first && isOneLine second) := by
  simp [isOneLine]

theorem isOneLine_intercalate {separator : String} {words : List String} (between : isOneLine separator = true)
    (each : ∀ word ∈ words, isOneLine word = true) : isOneLine (separator.intercalate words) = true := by
  rw [isOneLine, List.all_eq_true, String.toList_intercalate]
  intro c held
  rcases mem_intercalate held with here | ⟨word, among, within⟩
  · exact List.all_eq_true.1 between c here
  · obtain ⟨text, listed, rfl⟩ := List.mem_map.1 among
    exact List.all_eq_true.1 (each text listed) c within

theorem isBlank_of_isLineEnd {c : Char} (ends : isLineEnd c = true) : isBlank c = true := by
  simp only [isLineEnd, isBlank, inRanges, lineEndRanges, blankRanges, List.any_cons, List.any_nil, Bool.or_false,
    Bool.or_eq_true, Bool.and_eq_true, decide_eq_true_eq] at ends ⊢
  omega

theorem isLineEnd_of_not_isBlank {c : Char} (ink : isBlank c = false) : isLineEnd c = false := by
  rw [Bool.eq_false_iff]
  intro ends
  rw [isBlank_of_isLineEnd ends] at ink
  cases ink

def isInkedList (cs : List Char) : Bool := !cs.all isBlank

def isInked (text : String) : Bool := !isBlankText text

theorem filter_lines (text : String) :
    (lines text).filter isInked = ((linesOfList text.toList).filter isInkedList).map String.ofList := by
  rw [lines, List.filter_map]
  congr 2
  funext cs
  simp [isInked, isInkedList, isBlankText]

theorem filter_blank_cons {line : List Char} (blank : line.all isBlank = true) (rest : List (List Char)) :
    (line :: rest).filter isInkedList = rest.filter isInkedList := by
  simp [isInkedList, blank]

theorem linesFrom_cons {c : Char} {rest : List Char} (alone : ∀ later, c = '\r' → rest = '\n' :: later → False)
    (line : List Char) : linesFrom line (c :: rest) =
      if isLineEnd c then line.reverse :: linesFrom [] rest else linesFrom (c :: line) rest :=
  linesFrom.eq_3 line c rest alone

theorem lines_unifyNewlines (text : String) : lines (unifyNewlines text) = lines text := by
  have unified (line cs : List Char) : linesFrom line (unifyNewlinesList cs) = linesFrom line cs := by
    fun_induction unifyNewlinesList cs generalizing line with
    | case1 => rfl
    | case2 rest ih =>
      rw [linesFrom, linesFrom_cons (by simp), if_pos (by decide), ih]
    | case3 c rest alone ih =>
      rw [linesFrom_cons alone]
      by_cases carriage : c = '\r'
      · subst carriage
        rw [if_pos rfl, linesFrom_cons (by simp), if_pos (by decide), if_pos (by decide), ih]
      · have apart : ∀ later, c = '\r' → unifyNewlinesList rest = '\n' :: later → False :=
          fun _ is => absurd is carriage
        rw [if_neg carriage, linesFrom_cons apart, ih, ih]
  rw [lines, lines, linesOfList, linesOfList, unifyNewlines, String.toList_ofList, unified]

theorem filter_linesFrom_lineFeed (line cs rest : List Char) :
    (linesFrom line (cs ++ '\n' :: rest)).filter isInkedList =
      (linesFrom line cs).filter isInkedList ++ (linesFrom [] rest).filter isInkedList := by
  have ends (line : List Char) : linesFrom line ('\n' :: rest) = line.reverse :: linesFrom [] rest := by
    simp [linesFrom, show isLineEnd '\n' = true from rfl]
  fun_induction linesFrom line cs with
  | case1 line none =>
    obtain rfl := List.isEmpty_iff.1 none
    rw [List.nil_append, ends]
    exact filter_blank_cons rfl _
  | case2 line some =>
    rw [List.nil_append, ends, ← List.filter_append]
    rfl
  | case3 line cs ih =>
    rw [List.cons_append, List.cons_append, linesFrom, ← List.singleton_append, List.filter_append, ih,
      ← List.append_assoc, ← List.filter_append]
    rfl
  | case4 line c cs alone terminates ih =>
    -- A carriage return at the very end takes the line feed for its own.
    by_cases pair : c = '\r' ∧ cs = []
    · obtain ⟨rfl, rfl⟩ := pair
      rw [List.cons_append, List.nil_append, linesFrom, ← List.filter_append]
      rfl
    · have apart : ∀ later, c = '\r' → cs ++ '\n' :: rest = '\n' :: later → False := by
        intro later carriage feed
        cases cs with
        | nil => exact pair ⟨carriage, rfl⟩
        | cons d cs => exact alone cs carriage (by rw [(List.cons.inj feed).1])
      rw [List.cons_append, linesFrom_cons apart, if_pos terminates, ← List.singleton_append, List.filter_append,
        ih, ← List.append_assoc, ← List.filter_append]
      rfl
  | case5 line c cs _ continues ih =>
    have apart : ∀ later, c = '\r' → cs ++ '\n' :: rest = '\n' :: later → False := by
      rintro later rfl
      exact absurd rfl continues
    rw [List.cons_append, linesFrom_cons apart, if_neg continues, ih]

theorem mem_of_mem_linesFrom {line cs : List Char} {found : List Char} (held : found ∈ linesFrom line cs) {c : Char}
    (within : c ∈ found) : c ∈ line ∨ c ∈ cs := by
  fun_induction linesFrom line cs with
  | case1 => cases held
  | case2 line =>
    obtain rfl := List.mem_singleton.1 held
    exact .inl (List.mem_reverse.1 within)
  | case3 line cs ih =>
    rcases List.mem_cons.1 held with rfl | later
    · exact .inl (List.mem_reverse.1 within)
    · rcases ih later with none | there
      · cases none
      · exact .inr (List.mem_cons_of_mem _ (List.mem_cons_of_mem _ there))
  | case4 line c cs _ _ ih =>
    rcases List.mem_cons.1 held with rfl | later
    · exact .inl (List.mem_reverse.1 within)
    · rcases ih later with none | there
      · cases none
      · exact .inr (List.mem_cons_of_mem _ there)
  | case5 line c cs _ _ ih =>
    rcases ih held with there | later
    · rcases List.mem_cons.1 there with rfl | before
      · exact .inr List.mem_cons_self
      · exact .inl before
    · exact .inr (List.mem_cons_of_mem _ later)

theorem filter_lines_of_isBlankText {text : String} (blank : isBlankText text = true) :
    (lines text).filter isInked = [] := by
  rw [filter_lines, List.map_eq_nil_iff, List.filter_eq_nil_iff]
  intro line held
  have all : line.all isBlank = true := by
    rw [List.all_eq_true]
    intro c within
    rcases mem_of_mem_linesFrom held within with none | there
    · cases none
    · exact List.all_eq_true.1 blank c there
  simp [isInkedList, all]

theorem linesFrom_of_isOneLine {line cs : List Char} (one : ∀ c ∈ cs, isLineEnd c = false) (more : line ++ cs ≠ []) :
    linesFrom line cs = [line.reverse ++ cs] := by
  induction cs generalizing line with
  | nil => simp_all [linesFrom]
  | cons c cs ih =>
    have continues : isLineEnd c = false := one c List.mem_cons_self
    have apart : ∀ later, c = '\r' → cs = '\n' :: later → False := by
      rintro later rfl
      cases continues
    rw [linesFrom_cons apart, if_neg (by simp [continues]), ih]
    · simp
    · exact fun c held => one c (List.mem_cons_of_mem _ held)
    · simp

theorem lines_of_isOneLine {text : String} (one : isOneLine text = true) (inked : isInked text = true) :
    lines text = [text] := by
  have ended : ∀ c ∈ text.toList, isLineEnd c = false := by simpa [isOneLine] using one
  have filled : text.toList ≠ [] := by
    intro none
    simp [isInked, isBlankText, none] at inked
  rw [lines, linesOfList, linesFrom_of_isOneLine ended (by simpa using filled)]
  simp

/-- Where texts are joined by line feeds, those that are not blank come back as the lines that are not blank. -/
theorem filter_lines_intercalate {texts : List String}
    (one : ∀ text ∈ texts, isInked text = true → isOneLine text = true) :
    (lines ("\n".intercalate texts)).filter isInked = texts.filter isInked := by
  have alone (text : String) (one : isInked text = true → isOneLine text = true) :
      (lines text).filter isInked = [text].filter isInked := by
    by_cases inked : isInked text = true
    · rw [lines_of_isOneLine (one inked) inked]
    · rw [filter_lines_of_isBlankText (by simpa [isInked] using inked)]
      simp [inked]
  induction texts with
  | nil => rfl
  | cons text rest ih =>
    cases rest with
    | nil => simpa using alone text (one text List.mem_cons_self)
    | cons next rest =>
      have apart : (lines ("\n".intercalate (text :: next :: rest))).filter isInked =
          (lines text).filter isInked ++ (lines ("\n".intercalate (next :: rest))).filter isInked := by
        have joined : ("\n".intercalate (text :: next :: rest)).toList =
            text.toList ++ '\n' :: ("\n".intercalate (next :: rest)).toList := by
          rw [String.intercalate_cons_cons]
          simp
        rw [filter_lines, filter_lines, filter_lines, joined, linesOfList, filter_linesFrom_lineFeed, List.map_append]
        rfl
      rw [apart, alone text (one text List.mem_cons_self), ih fun text held => one text (List.mem_cons_of_mem _ held),
        ← List.filter_append]
      rfl

end Parley.Text

