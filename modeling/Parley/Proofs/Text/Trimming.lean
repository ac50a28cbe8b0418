import Mathlib.Data.List.TakeWhile
import Parley.Text.Lines

namespace Parley.Text

variable {cs : List Char}

theorem dropWhile_of_ink (ink : ∀ c ∈ cs, isBlank c = false) : cs.dropWhile isBlank = cs := by
  cases cs with
  | nil => rfl
  | cons c rest => exact List.dropWhile_cons_of_neg (by simp [ink c List.mem_cons_self])

theorem trimEndList_append {c : Char} (ink : isBlank c = false) (cs rest : List Char) :
    trimEndList (cs ++ c :: rest) = cs ++ c :: trimEndList rest := by
  have stops : (c :: cs.reverse).dropWhile isBlank = c :: cs.reverse := List.dropWhile_cons_of_neg (by simp [ink])
  simp only [trimEndList, List.reverse_append, List.reverse_cons, List.append_assoc, List.cons_append, List.nil_append,
    List.dropWhile_append, stops]
  split
  next none => simp [List.isEmpty_iff.1 none]
  next => simp

theorem length_trimEndList_le (cs : List Char) : (trimEndList cs).length ≤ cs.length := by
  calc
    (trimEndList cs).length = (cs.reverse.dropWhile isBlank).length := List.length_reverse
    _ ≤ cs.reverse.length := List.Sublist.length_le (List.dropWhile_sublist _)
    _ = cs.length := List.length_reverse

theorem ink_of_trimmed {c : Char} {rest : List Char} (trimmed : trimList (c :: rest) = c :: rest) :
    isBlank c = false := by
  rw [Bool.eq_false_iff]
  intro blank
  have shorter : (trimList (c :: rest)).length ≤ rest.length := by
    calc
      (trimList (c :: rest)).length ≤ ((c :: rest).dropWhile isBlank).length := length_trimEndList_le _
      _ = (rest.dropWhile isBlank).length := by rw [List.dropWhile_cons_of_pos blank]
      _ ≤ rest.length := List.Sublist.length_le (List.dropWhile_sublist _)
  rw [trimmed, List.length_cons] at shorter
  omega

theorem trimList_cons_of_ink {c : Char} (ink : isBlank c = false) (rest : List Char) :
    trimList (c :: rest) = c :: trimEndList rest := by
  have keeps : (c :: rest).dropWhile isBlank = c :: rest := List.dropWhile_cons_of_neg (by simp [ink])
  calc
    trimList (c :: rest) = trimEndList ((c :: rest).dropWhile isBlank) := rfl
    _ = c :: trimEndList rest := by rw [keeps]; exact trimEndList_append ink [] rest

theorem trimList_between {first last : Char} (middle : List Char) (start : isBlank first = false)
    (stop : isBlank last = false) : trimList (first :: (middle ++ [last])) = first :: (middle ++ [last]) := by
  rw [trimList_cons_of_ink start, trimEndList_append stop]
  rfl

theorem trimEndList_of_trimmed (trimmed : trimList cs = cs) : trimEndList cs = cs := by
  cases cs with
  | nil => rfl
  | cons c rest =>
    have ink := ink_of_trimmed trimmed
    calc
      trimEndList (c :: rest) = c :: trimEndList rest := trimEndList_append ink [] rest
      _ = c :: rest := by rw [← trimList_cons_of_ink ink, trimmed]

theorem trimList_of_ink (ink : ∀ c ∈ cs, isBlank c = false) : trimList cs = cs := by
  rw [trimList, trimBy, dropWhile_of_ink ink, dropWhile_of_ink, List.reverse_reverse]
  exact fun c held => ink c (List.mem_reverse.1 held)

theorem trimList_append_of_blank {before : List Char} (blank : ∀ c ∈ before, isBlank c = true) (cs : List Char) :
    trimList (before ++ cs) = trimList cs := by
  rw [trimList, trimBy, List.dropWhile_append_of_pos blank]
  rfl

theorem trimList_append_of_blank_end {after : List Char} (blank : ∀ c ∈ after, isBlank c = true) (cs : List Char) :
    trimList (cs ++ after) = trimList cs := by
  have nothing : after.dropWhile isBlank = [] := List.dropWhile_eq_nil_iff.2 blank
  have backwards : ∀ c ∈ after.reverse, isBlank c = true := fun c held => blank c (List.mem_reverse.1 held)
  rw [trimList, trimList, trimBy, trimBy, List.dropWhile_append]
  split
  next all => rw [nothing, List.isEmpty_iff.1 all]
  next => rw [List.reverse_append, List.dropWhile_append_of_pos backwards]

theorem trimList_eq_nil_iff : trimList cs = [] ↔ cs.all isBlank = true := by
  rw [List.all_eq_true]
  constructor
  · intro nothing
    have rest : ∀ c ∈ cs.dropWhile isBlank, isBlank c = true := by
      simpa [trimList, trimBy, List.dropWhile_eq_nil_iff] using nothing
    refine List.dropWhile_eq_nil_iff.1 ?_
    cases left : cs.dropWhile isBlank with
    | nil => rfl
    | cons c later =>
      have ink := List.head?_dropWhile_not isBlank cs
      rw [left] at rest ink
      simp [rest c List.mem_cons_self] at ink
  · intro blank
    have all := trimList_append_of_blank blank []
    rwa [List.append_nil] at all

theorem mem_of_mem_trimBy {drop : Char → Bool} {c : Char} (held : c ∈ trimBy drop cs) : c ∈ cs := by
  rw [trimBy, List.mem_reverse] at held
  have within := (List.dropWhile_sublist _).subset held
  exact (List.dropWhile_sublist _).subset (List.mem_reverse.1 within)

theorem splitList_append {separator : Char} (plain : separator ∉ cs) (rest : List Char) :
    splitList separator (cs ++ separator :: rest) = cs :: splitList separator rest := by
  induction cs with
  | nil => simp [splitList]
  | cons c cs ih =>
    have differ : c ≠ separator := fun same => plain (same ▸ List.mem_cons_self)
    rw [List.cons_append, splitList, if_neg differ, ih fun held => plain (List.mem_cons_of_mem _ held)]

theorem splitList_of_not_mem {separator : Char} (plain : separator ∉ cs) : splitList separator cs = [cs] := by
  induction cs with
  | nil => rfl
  | cons c cs ih =>
    have differ : c ≠ separator := fun same => plain (same ▸ List.mem_cons_self)
    rw [splitList, if_neg differ, ih fun held => plain (List.mem_cons_of_mem _ held)]

/-- The pieces between the occurrences of a character hold all the rest. -/
theorem splitList_pieces (separator : Char) (cs : List Char) :
    ∃ before last, splitList separator cs = before ++ [last] ∧
      before.flatMap (fun piece => piece ++ [separator]) ++ last = cs ∧
      ∀ piece ∈ before ++ [last], separator ∉ piece := by
  induction cs with
  | nil => exact ⟨[], [], rfl, rfl, by simp⟩
  | cons c rest ih =>
    obtain ⟨before, last, pieces, joined, plain⟩ := ih
    rw [splitList]
    split
    next same =>
      exact ⟨[] :: before, last, by rw [pieces]; rfl, by simp [joined, same], by simpa using plain⟩
    next differ =>
      have other : separator ≠ c := fun same => differ same.symm
      rw [pieces]
      cases before with
      | nil =>
        exact ⟨[], c :: last, rfl, congrArg (c :: ·) joined, by simpa [other] using plain⟩
      | cons first before =>
        exact ⟨(c :: first) :: before, last, rfl, congrArg (c :: ·) joined, by simpa [other] using plain⟩

theorem mem_intercalate {separator : List Char} {words : List (List Char)} {c : Char}
    (held : c ∈ List.intercalate separator words) : c ∈ separator ∨ ∃ word ∈ words, c ∈ word := by
  induction words with
  | nil => cases held
  | cons word rest ih =>
    cases rest with
    | nil => exact .inr ⟨word, List.mem_cons_self, by simpa using held⟩
    | cons next rest =>
      rw [List.intercalate_cons_cons, List.mem_append, List.mem_append] at held
      rcases held with (here | between) | later
      · exact .inr ⟨word, List.mem_cons_self, here⟩
      · exact .inl between
      · rcases ih later with between | ⟨other, among, within⟩
        · exact .inl between
        · exact .inr ⟨other, List.mem_cons_of_mem _ among, within⟩

theorem not_mem_append_of_blank {before word : List Char} (blank : ∀ c ∈ before, isBlank c = true)
    (unbroken : ',' ∉ word) : ',' ∉ before ++ word := by
  rw [List.mem_append]
  rintro (early | late)
  · cases blank _ early
  · exact unbroken late

/-- Words that are joined by commas and spaces come apart at the commas. -/
theorem splitList_joined {word : List Char} {words : List (List Char)} (before : List Char)
    (blank : ∀ c ∈ before, isBlank c = true) (unbroken : ∀ other ∈ word :: words, ',' ∉ other)
    (trimmed : ∀ other ∈ word :: words, trimList other = other) :
    (splitList ',' (before ++ List.intercalate [',', ' '] (word :: words))).map trimList = word :: words := by
  induction words generalizing word before with
  | nil =>
    have whole := not_mem_append_of_blank blank (unbroken word List.mem_cons_self)
    rw [List.intercalate_singleton, splitList_of_not_mem whole, List.map_singleton,
      trimList_append_of_blank blank, trimmed word List.mem_cons_self]
  | cons next words ih =>
    have first := not_mem_append_of_blank blank (unbroken word List.mem_cons_self)
    have later := ih [' '] (List.forall_mem_singleton.2 rfl)
      (fun other held => unbroken other (List.mem_cons_of_mem _ held))
      (fun other held => trimmed other (List.mem_cons_of_mem _ held))
    have joined : before ++ List.intercalate [',', ' '] (word :: next :: words) =
        (before ++ word) ++ ',' :: ([' '] ++ List.intercalate [',', ' '] (next :: words)) := by
      simp [List.intercalate_cons_cons]
    rw [joined, splitList_append first, List.map_cons, later, trimList_append_of_blank blank,
      trimmed word List.mem_cons_self]

end Parley.Text

