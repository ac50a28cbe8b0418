import Parley.Proofs.Text.Lines
import Parley.Text.Fence

namespace Parley.Text

variable {cs : List Char}

/-- Three backquotes stand, behind blanks at most, at the start of a text or behind the end of a line. -/
def Fenced (cs : List Char) : Prop :=
  ∃ before blanks after, cs = before ++ (blanks ++ (fence ++ after)) ∧
    (∀ c ∈ before.getLast?, isLineEnd c = true) ∧ ∀ c ∈ blanks, isBlank c = true

theorem isFenceLine_iff {line : List Char} :
    isFenceLine line = true ↔ ∃ blanks after, line = blanks ++ (fence ++ after) ∧ ∀ c ∈ blanks, isBlank c = true := by
  rw [isFenceLine, List.isPrefixOf_iff_prefix]
  constructor
  · rintro ⟨after, rest⟩
    exact ⟨line.takeWhile isBlank, after, by rw [rest, List.takeWhile_append_dropWhile],
      fun c held => List.mem_takeWhile_imp held⟩
  · rintro ⟨blanks, after, rfl, blank⟩
    rw [List.dropWhile_append_of_pos blank]
    exact ⟨after, rfl⟩

theorem forall_getLast?_append {p : Char → Prop} {c : Char} {before : List Char} (first : p c)
    (last : ∀ d ∈ before.getLast?, p d) (front : List Char) : ∀ d ∈ (front ++ c :: before).getLast?, p d := by
  rw [List.getLast?_append, List.getLast?_cons]
  cases found : before.getLast? with
  | none => simpa using first
  | some d => simpa using last d found

theorem split_of_mem_linesFrom {line found : List Char} (held : found ∈ linesFrom line cs) :
    ∃ before after, line.reverse ++ cs = before ++ (found ++ after) ∧ ∀ c ∈ before.getLast?, isLineEnd c = true := by
  fun_induction linesFrom line cs with
  | case1 => cases held
  | case2 line _ =>
    obtain rfl := List.mem_singleton.1 held
    exact ⟨[], [], by simp, by simp⟩
  | case3 line rest ih =>
    obtain rfl | later := List.mem_cons.1 held
    · exact ⟨[], '\r' :: '\n' :: rest, rfl, by simp⟩
    · obtain ⟨before, after, cut, last⟩ := ih later
      refine ⟨line.reverse ++ ['\r'] ++ '\n' :: before, after, ?_, forall_getLast?_append (by decide) last _⟩
      simpa using cut
  | case4 line c rest _ ends ih =>
    obtain rfl | later := List.mem_cons.1 held
    · exact ⟨[], c :: rest, rfl, by simp⟩
    · obtain ⟨before, after, cut, last⟩ := ih later
      refine ⟨line.reverse ++ c :: before, after, ?_, forall_getLast?_append ends last _⟩
      simpa using cut
  | case5 line c rest _ _ ih =>
    obtain ⟨before, after, cut, last⟩ := ih held
    exact ⟨before, after, by simpa using cut, last⟩

theorem fenced_of_mem_lines {line : List Char} (held : line ∈ linesOfList cs) (fenced : isFenceLine line = true) :
    Fenced cs := by
  obtain ⟨before, rest, cut, last⟩ := split_of_mem_linesFrom held
  obtain ⟨blanks, after, rfl, blank⟩ := isFenceLine_iff.1 fenced
  exact ⟨before, blanks, after ++ rest, by simpa using cut, last, blank⟩

theorem exists_around_trimList (cs : List Char) :
    ∃ front back, cs = front ++ (trimList cs ++ back) ∧ (∀ c ∈ front, isBlank c = true) ∧ ∀ c ∈ back, isBlank c = true := by
  refine ⟨cs.takeWhile isBlank, ((cs.dropWhile isBlank).reverse.takeWhile isBlank).reverse, ?_,
    fun c held => List.mem_takeWhile_imp held, fun c held => List.mem_takeWhile_imp (List.mem_reverse.1 held)⟩
  rw [trimList, trimBy, ← List.reverse_append, List.takeWhile_append_dropWhile, List.reverse_reverse,
    List.takeWhile_append_dropWhile]

theorem trimList_trimList (cs : List Char) : trimList (trimList cs) = trimList cs := by
  obtain ⟨front, back, whole, leading, trailing⟩ := exists_around_trimList cs
  calc
    trimList (trimList cs) = trimList (trimList cs ++ back) := (trimList_append_of_blank_end trailing _).symm
    _ = trimList (front ++ (trimList cs ++ back)) := (trimList_append_of_blank leading _).symm
    _ = trimList cs := congrArg trimList whole.symm

theorem ink_of_getLast?_trimList {c : Char} (last : (trimList cs).getLast? = some c) : isBlank c = false := by
  rw [trimList, trimBy, List.getLast?_reverse] at last
  have stops := List.head?_dropWhile_not isBlank (cs.dropWhile isBlank).reverse
  rw [last] at stops
  exact stops

theorem Fenced.of_trimList (fenced : Fenced (trimList cs)) : Fenced cs := by
  obtain ⟨before, blanks, after, cut, last, blank⟩ := fenced
  obtain ⟨front, back, whole, leading, -⟩ := exists_around_trimList cs
  rw [cut] at whole
  rcases List.eq_nil_or_concat before with rfl | ⟨initial, c, rfl⟩
  · refine ⟨[], front ++ blanks, after ++ back, by simpa using whole, by simp, ?_⟩
    exact List.forall_mem_append.2 ⟨leading, blank⟩
  · refine ⟨front ++ (initial ++ [c]), blanks, after ++ back, by simpa using whole, ?_, blank⟩
    simpa using last

theorem Fenced.isFenceLine (fenced : Fenced cs) (whole : ∀ c ∈ cs, isLineEnd c = false) : isFenceLine cs = true := by
  obtain ⟨before, blanks, after, rfl, last, blank⟩ := fenced
  rcases List.eq_nil_or_concat before with rfl | ⟨initial, c, rfl⟩
  · exact isFenceLine_iff.2 ⟨blanks, after, rfl, blank⟩
  · have ends : isLineEnd c = true := by simpa using last
    have none : isLineEnd c = false := whole c (by simp)
    rw [none] at ends
    cases ends

theorem Fenced.of_append {line rest : List Char} (whole : ∀ c ∈ line, isLineEnd c = false)
    (fenced : Fenced (line ++ '\n' :: rest)) : Text.isFenceLine line = true ∨ Fenced rest := by
  obtain ⟨before, blanks, after, cut, last, blank⟩ := fenced
  rcases List.eq_nil_or_concat before with rfl | ⟨initial, c, rfl⟩
  · rw [List.nil_append, ← List.append_assoc] at cut
    obtain ⟨more, marks, behind⟩ | ⟨more, rfl, -⟩ := List.append_eq_append_iff.1 cut
    · cases more with
      | nil => exact .inl (isFenceLine_iff.2 ⟨blanks, [], by rw [List.append_nil, marks, List.append_nil], blank⟩)
      | cons d more =>
        -- The line feed stands among the blanks, as it is none of the backquotes.
        obtain ⟨rfl, rfl⟩ := List.cons.inj behind
        obtain ⟨few, -, parts⟩ | ⟨few, rfl, parts⟩ := List.append_eq_append_iff.1 marks
        · have held : '\n' ∈ fence := parts ▸ List.mem_append_right _ List.mem_cons_self
          exact absurd held (by decide)
        · cases few with
          | nil => cases parts
          | cons d few =>
            obtain ⟨rfl, rfl⟩ := List.cons.inj parts
            refine .inr ⟨[], few, after, by simp, by simp, fun c held => blank c ?_⟩
            exact List.mem_append_right _ (List.mem_cons_of_mem _ held)
    · exact .inl (isFenceLine_iff.2 ⟨blanks, more, List.append_assoc .., blank⟩)
  · have ends : isLineEnd c = true := by simpa using last
    have outside : c ∉ line := fun held => by simp [whole c held] at ends
    obtain ⟨more, marks, behind⟩ | ⟨more, rfl, -⟩ := List.append_eq_append_iff.1 cut
    · cases more with
      | nil => exact absurd (by rw [← List.append_nil line, ← marks]; simp) outside
      | cons d more =>
        obtain ⟨rfl, rfl⟩ := List.cons.inj behind
        refine .inr ⟨more, blanks, after, rfl, fun other final => last other ?_, blank⟩
        rw [marks, List.getLast?_append, List.getLast?_cons, Option.mem_def.1 final]
        rfl
    · exact absurd (by simp) outside

/-- Of lines that are joined by line feeds, one is a fence line if three backquotes stand where a line starts. -/
theorem Fenced.exists_line {texts : List (List Char)} (whole : ∀ text ∈ texts, ∀ c ∈ text, isLineEnd c = false)
    (fenced : Fenced (['\n'].intercalate texts)) : ∃ text ∈ texts, Text.isFenceLine text = true := by
  induction texts with
  | nil =>
    obtain ⟨before, blanks, after, cut, -⟩ := fenced
    simp [fence] at cut
  | cons text rest ih =>
    cases rest with
    | nil =>
      rw [List.intercalate_singleton] at fenced
      exact ⟨text, List.mem_cons_self, fenced.isFenceLine (whole text List.mem_cons_self)⟩
    | cons next rest =>
      rw [List.intercalate_cons_cons, List.append_assoc, List.singleton_append] at fenced
      obtain here | later := fenced.of_append (whole text List.mem_cons_self)
      · exact ⟨text, List.mem_cons_self, here⟩
      · obtain ⟨other, among, starts⟩ := ih (fun other held => whole other (List.mem_cons_of_mem _ held)) later
        exact ⟨other, List.mem_cons_of_mem _ among, starts⟩

theorem containsList_iff {pattern : List Char} : containsList pattern cs = true ↔ pattern <:+: cs := by
  induction cs with
  | nil => rw [containsList, List.isEmpty_iff, List.infix_nil]
  | cons c rest ih =>
    rw [containsList, Bool.or_eq_true, List.isPrefixOf_iff_prefix, ih, List.infix_cons_iff]

theorem Fenced.fence_infix (fenced : Fenced cs) : fence <:+: cs := by
  obtain ⟨before, blanks, after, rfl, -⟩ := fenced
  exact ⟨before ++ blanks, after, by simp⟩

theorem isLineEnd_of_mem_linesFrom {line found : List Char} (held : found ∈ linesFrom line cs)
    (whole : ∀ c ∈ line, isLineEnd c = false) : ∀ c ∈ found, isLineEnd c = false := by
  have reversed {line : List Char} (whole : ∀ c ∈ line, isLineEnd c = false) : ∀ c ∈ line.reverse, isLineEnd c = false :=
    fun c held => whole c (List.mem_reverse.1 held)
  fun_induction linesFrom line cs with
  | case1 => cases held
  | case2 line => exact List.mem_singleton.1 held ▸ reversed whole
  | case3 line rest ih =>
    obtain rfl | later := List.mem_cons.1 held
    · exact reversed whole
    · exact ih later (by simp)
  | case4 line c rest _ ends ih =>
    obtain rfl | later := List.mem_cons.1 held
    · exact reversed whole
    · exact ih later (by simp)
  | case5 line c rest _ continues ih => exact ih held (List.forall_mem_cons.2 ⟨by simpa using continues, whole⟩)

theorem isLineEnd_of_mem_lines {found : List Char} (held : found ∈ linesOfList cs) : ∀ c ∈ found, isLineEnd c = false :=
  isLineEnd_of_mem_linesFrom held (by simp)

/-- Lines that end in line feeds alone, the last one in nothing, make up their text when they are joined again. -/
theorem intercalate_linesFrom {line : List Char} (feeds : ∀ c ∈ cs, isLineEnd c = true → c = '\n')
    (last : cs.getLast? ≠ some '\n') : ['\n'].intercalate (linesFrom line cs) = line.reverse ++ cs := by
  fun_induction linesFrom line cs with
  | case1 line none => simpa using none
  | case2 line _ => simp
  | case3 line rest ih =>
    have feed := feeds '\r' List.mem_cons_self (by decide)
    cases feed
  | case4 line c rest _ ends ih =>
    obtain rfl := feeds c List.mem_cons_self ends
    have later : rest ≠ [] := fun none => last (by rw [none]; rfl)
    have joined := ih (fun c held => feeds c (List.mem_cons_of_mem _ held)) fun feed => last (by
      rw [List.getLast?_cons, feed]
      rfl)
    have more : linesFrom [] rest ≠ [] := fun none => later (by simpa [none] using joined.symm)
    rw [List.intercalate_cons_of_ne_nil more, joined]
    simp
  | case5 line c rest _ _ ih =>
    have final : rest.getLast? ≠ some '\n' := fun feed => last (by
      rw [List.getLast?_cons, feed]
      rfl)
    rw [ih (fun c held => feeds c (List.mem_cons_of_mem _ held)) final]
    simp

theorem isLineEnd_of_mem_withoutFencesList (marked : fence <:+: cs) {c : Char} (held : c ∈ withoutFencesList cs)
    (ends : isLineEnd c = true) : c = '\n' := by
  rw [withoutFencesList, if_pos (containsList_iff.2 marked)] at held
  obtain feed | ⟨line, among, within⟩ := mem_intercalate held
  · exact List.mem_singleton.1 feed
  · have none := isLineEnd_of_mem_lines (List.mem_filter.1 among).1 c within
    rw [none] at ends
    cases ends

/-- No line that an answer shows is a fence line. -/
theorem isFenceLine_of_shown {line : List Char} (held : line ∈ linesOfList (trimList (withoutFencesList cs))) :
    isFenceLine line = false := by
  rw [Bool.eq_false_iff]
  intro starts
  have fenced := (fenced_of_mem_lines held starts).of_trimList
  by_cases marked : fence <:+: cs
  · rw [withoutFencesList, if_pos (containsList_iff.2 marked)] at fenced
    obtain ⟨text, among, starts⟩ := fenced.exists_line fun text among =>
      isLineEnd_of_mem_lines (List.mem_filter.1 among).1
    simpa [starts] using (List.mem_filter.1 among).2
  · rw [withoutFencesList, if_neg (mt containsList_iff.1 marked)] at fenced
    exact marked fenced.fence_infix

/-- What an answer shows has nothing more to lose. -/
theorem withoutFencesList_of_shown (cs : List Char) :
    withoutFencesList (trimList (withoutFencesList cs)) = trimList (withoutFencesList cs) := by
  by_cases still : fence <:+: trimList (withoutFencesList cs)
  · have within : trimList (withoutFencesList cs) <:+: withoutFencesList cs := by
      obtain ⟨front, back, whole, -⟩ := exists_around_trimList (withoutFencesList cs)
      exact ⟨front, back, by rw [List.append_assoc]; exact whole.symm⟩
    have marked : fence <:+: cs := by
      by_cases marked : fence <:+: cs
      · exact marked
      · have same : withoutFencesList cs = cs := by rw [withoutFencesList, if_neg (mt containsList_iff.1 marked)]
        exact same ▸ still.trans within
    have kept : (linesOfList (trimList (withoutFencesList cs))).filter (fun line => !isFenceLine line) =
        linesOfList (trimList (withoutFencesList cs)) :=
      List.filter_eq_self.2 fun line held => by rw [isFenceLine_of_shown held]; rfl
    rw [withoutFencesList, if_pos (containsList_iff.2 still), kept, linesOfList, intercalate_linesFrom]
    · rfl
    · exact fun c held ends => isLineEnd_of_mem_withoutFencesList marked (within.subset held) ends
    · intro last
      cases ink_of_getLast?_trimList last
  · rw [withoutFencesList, if_neg (mt containsList_iff.1 still)]

theorem toList_answerText (text : String) :
    (answerText text).toList = trimList (withoutFencesList text.toList) := by
  rw [answerText, trim, withoutFences, String.toList_ofList, String.toList_ofList]

theorem isFenceLine_of_mem_lines_answerText {text line : String} (held : line ∈ lines (answerText text)) :
    isFenceLine line.toList = false := by
  rw [lines, toList_answerText] at held
  obtain ⟨found, among, rfl⟩ := List.mem_map.1 held
  rw [String.toList_ofList]
  exact isFenceLine_of_shown among

theorem answerText_answerText (text : String) : answerText (answerText text) = answerText text := by
  apply String.toList_injective
  rw [toList_answerText, toList_answerText, withoutFencesList_of_shown, trimList_trimList]

/-- A text with three backquotes is shown as its other lines, joined by line feeds. -/
theorem answerText_of_fence {text : String} (marked : fence <:+: text.toList) :
    answerText text = trim ("\n".intercalate ((lines text).filter fun line => !isFenceLine line.toList)) := by
  have joined : withoutFences text = "\n".intercalate ((lines text).filter fun line => !isFenceLine line.toList) := by
    apply String.toList_injective
    rw [withoutFences, withoutFencesList, if_pos (containsList_iff.2 marked), String.toList_ofList,
      String.toList_intercalate, lines, List.filter_map, List.map_map]
    simp [Function.comp_def]
  rw [answerText, joined]

end Parley.Text

