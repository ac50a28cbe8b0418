import Mathlib.Data.List.TakeWhile
import Parley.Extraction.Binding
import Parley.Proofs.Text.Lines
import Parley.Tool.Declaration

namespace Parley.Tool

open Text (isBlank trimList trimEndList isOneLine isInked)

/-- Whether a text reads as the comment on an argument: a name, perhaps behind a star, then a colon, perhaps behind
blanks. -/
def IsArgumentShaped (text : List Char) : Prop :=
  ∃ star name blanks rest : List Char, (star = [] ∨ star = ['*']) ∧ isDeclaredName name = true ∧
    (∀ c ∈ blanks, isBlank c = true) ∧ text = star ++ (name ++ (blanks ++ ':' :: rest))

section Names

theorem isNameChar_of_isDeclaredNameChar {c : Char} (held : isDeclaredNameChar c = true) :
    Extraction.isNameChar c = true := by
  simp only [isDeclaredNameChar, Bool.or_eq_true] at held
  simp only [Extraction.isNameChar, Extraction.isNameStart, Bool.or_eq_true]
  rcases held with (letter | digit) | underscore
  · exact .inl (.inl letter)
  · exact .inr digit
  · exact .inl (.inr underscore)

theorem not_isDeclaredNameChar_of_isBlank {c : Char} (blank : isBlank c = true) : isDeclaredNameChar c = false := by
  rw [Bool.eq_false_iff]
  intro held
  have ink := Extraction.not_isBlank_of_isNameChar (isNameChar_of_isDeclaredNameChar held)
  cases ink.symm.trans blank

variable {name : List Char} (declared : isDeclaredName name = true)

include declared

theorem ink_of_isDeclaredName : ∀ c ∈ name, isBlank c = false := by
  intro c held
  simp only [isDeclaredName, Bool.and_eq_true, List.all_eq_true] at declared
  exact Extraction.not_isBlank_of_isNameChar (isNameChar_of_isDeclaredNameChar (declared.2 c held))

theorem not_mem_of_isDeclaredName {c : Char} (barred : isDeclaredNameChar c = false) : c ∉ name := by
  intro held
  simp only [isDeclaredName, Bool.and_eq_true, List.all_eq_true] at declared
  cases barred.symm.trans (declared.2 c held)

theorem isDeclaredName_ne_nil : name ≠ [] := by
  rintro rfl
  cases declared

theorem span_name (rest : List Char) (ends : ∀ c ∈ rest.head?, isDeclaredNameChar c = false) :
    (name ++ rest).takeWhile isDeclaredNameChar = name ∧ (name ++ rest).dropWhile isDeclaredNameChar = rest := by
  simp only [isDeclaredName, Bool.and_eq_true, List.all_eq_true] at declared
  rw [List.takeWhile_append_of_pos declared.2, List.dropWhile_append_of_pos declared.2]
  cases rest with
  | nil => exact ⟨List.append_nil _, rfl⟩
  | cons c rest =>
    have barred : ¬isDeclaredNameChar c = true := by simp [ends c rfl]
    rw [List.takeWhile_cons_of_neg barred, List.dropWhile_cons_of_neg barred]
    exact ⟨List.append_nil _, rfl⟩

theorem dropBlanks_name (rest : List Char) : dropBlanks (name ++ rest) = name ++ rest := by
  cases name with
  | nil => cases declared
  | cons c cs =>
    have ink := ink_of_isDeclaredName declared c List.mem_cons_self
    exact List.dropWhile_cons_of_neg (by simp [ink])

theorem dropStar_name (rest : List Char) : dropStar (name ++ rest) = name ++ rest := by
  cases name with
  | nil => cases declared
  | cons c cs =>
    have differ : c ≠ '*' := fun same => not_mem_of_isDeclaredName declared (c := '*') rfl (same ▸ List.mem_cons_self)
    rw [List.cons_append, dropStar]
    intro other same
    exact differ (List.cons.inj same).1

end Names

theorem isOneLine_of_isDeclaredName {name : String} (declared : isDeclaredName name.toList = true) :
    isOneLine name = true := by
  rw [isOneLine, List.all_eq_true]
  intro c held
  rw [Text.isLineEnd_of_not_isBlank (ink_of_isDeclaredName declared c held)]
  rfl

section Comments

theorem commentText?_slashes (text : List Char) :
    commentText? ('/' :: '/' :: ' ' :: text) = some (trimEndList text) := rfl

theorem dropStar_star {star : List Char} (one : star = [] ∨ star = ['*']) {name : List Char}
    (declared : isDeclaredName name = true) (rest : List Char) : dropStar (star ++ (name ++ rest)) = name ++ rest := by
  rcases one with rfl | rfl
  · exact dropStar_name declared rest
  · rfl

theorem argumentComment?_shaped {star name blanks : List Char} (one : star = [] ∨ star = ['*'])
    (declared : isDeclaredName name = true) (blank : ∀ c ∈ blanks, isBlank c = true) (rest : List Char) :
    argumentComment? (star ++ (name ++ (blanks ++ ':' :: rest))) =
      some (String.ofList name, String.ofList (trimList rest)) := by
  have ends : ∀ c ∈ (blanks ++ ':' :: rest).head?, isDeclaredNameChar c = false := by
    intro c first
    cases blanks with
    | nil =>
      obtain rfl := Option.some.inj first
      rfl
    | cons d blanks =>
      obtain rfl := Option.some.inj first
      exact not_isDeclaredNameChar_of_isBlank (blank d List.mem_cons_self)
  have colon : dropBlanks (blanks ++ ':' :: rest) = ':' :: rest := by
    rw [dropBlanks, List.dropWhile_append_of_pos blank]
    rfl
  obtain ⟨taken, left⟩ := span_name declared _ ends
  unfold argumentComment?
  simp only [dropStar_star one declared, taken, left, colon]
  cases name with
  | nil => cases declared
  | cons c cs => rfl

theorem exists_star (text : List Char) : ∃ star, (star = [] ∨ star = ['*']) ∧ text = star ++ dropStar text := by
  unfold dropStar
  split
  next rest => exact ⟨['*'], .inr rfl, rfl⟩
  next => exact ⟨[], .inl rfl, rfl⟩

/-- The comments on arguments are those of their shape. -/
theorem isSome_argumentComment?_iff (text : List Char) :
    (argumentComment? text).isSome = true ↔ IsArgumentShaped text := by
  constructor
  · intro read
    obtain ⟨star, one, whole⟩ := exists_star text
    have parts : dropStar text = (dropStar text).takeWhile isDeclaredNameChar ++
        (((dropStar text).dropWhile isDeclaredNameChar).takeWhile isBlank ++
          dropBlanks ((dropStar text).dropWhile isDeclaredNameChar)) := by
      rw [dropBlanks, List.takeWhile_append_dropWhile, List.takeWhile_append_dropWhile]
    unfold argumentComment? at read
    dsimp only at read
    split at read
    next => cases read
    next rest colon filled =>
      have named : isDeclaredName ((dropStar text).takeWhile isDeclaredNameChar) = true := by
        rw [isDeclaredName, List.all_takeWhile, Bool.and_true, Bool.not_eq_true', List.isEmpty_eq_false_iff]
        exact filled
      refine ⟨star, (dropStar text).takeWhile isDeclaredNameChar,
        ((dropStar text).dropWhile isDeclaredNameChar).takeWhile isBlank, rest, one, named,
        fun c held => List.mem_takeWhile_imp held, ?_⟩
      rw [← colon, ← parts]
      exact whole
    next => cases read
  · rintro ⟨star, name, blanks, rest, one, declared, blank, rfl⟩
    rw [argumentComment?_shaped one declared blank]
    rfl

instance (text : List Char) : Decidable (IsArgumentShaped text) :=
  decidable_of_iff _ (isSome_argumentComment?_iff text)

/-- A text on one line, without blanks around it. -/
def IsPlain (text : String) : Prop := isOneLine text = true ∧ Text.trim text = text

instance (text : String) : Decidable (IsPlain text) := inferInstanceAs (Decidable (_ ∧ _))

theorem IsPlain.trimmed {text : String} (plain : IsPlain text) : trimList text.toList = text.toList := by
  have same := congrArg String.toList plain.2
  rwa [Text.trim, String.toList_ofList] at same

theorem trimList_trimEndList_blank {cs : List Char} (trimmed : trimList cs = cs) :
    trimList (trimEndList (' ' :: cs)) = cs := by
  cases cs with
  | nil => rfl
  | cons c rest =>
    have ink := Text.ink_of_trimmed trimmed
    calc
      trimList (trimEndList (' ' :: c :: rest)) = trimList (' ' :: c :: trimEndList rest) := by
        rw [← List.singleton_append, Text.trimEndList_append ink]
        rfl
      _ = trimList (c :: trimEndList rest) := rfl
      _ = c :: rest := by rw [← Text.trimList_cons_of_ink ink, trimmed, trimmed]

def argumentLine (argument text : String) : String := "// " ++ argument ++ ": " ++ text

theorem toList_argumentLine (argument text : String) :
    (argumentLine argument text).toList = '/' :: '/' :: ' ' :: (argument.toList ++ ':' :: ' ' :: text.toList) := by
  simp [argumentLine]

theorem argumentComment?_argumentLine {argument text : String} (declared : isDeclaredName argument.toList = true)
    (plain : IsPlain text) : ((commentText? (argumentLine argument text).toList).bind argumentComment?) =
      some (argument, text) := by
  have colon : isBlank ':' = false := rfl
  have shaped := argumentComment?_shaped (.inl rfl) declared (List.forall_mem_nil _) (trimEndList (' ' :: text.toList))
  rw [List.nil_append, List.nil_append, trimList_trimEndList_blank plain.trimmed] at shaped
  rw [toList_argumentLine, commentText?_slashes, Text.trimEndList_append colon, Option.bind_some, shaped]
  simp

end Comments

section Signatures

variable {spec : Spec}

def Spec.starred (spec : Spec) (argument : String) : List Char :=
  if spec.isOptional argument then '*' :: argument.toList else argument.toList

def Spec.inner (spec : Spec) : List Char := List.intercalate [',', ' '] (spec.arguments.map spec.starred)

theorem Spec.toList_signature (spec : Spec) :
    spec.signature.toList = spec.name.toList ++ '(' :: (spec.inner ++ [')']) := by
  have words : (spec.arguments.map fun argument => if spec.isOptional argument then "*" ++ argument else argument).map
      String.toList = spec.arguments.map spec.starred := by
    rw [List.map_map]
    apply List.map_congr_left
    intro argument _
    simp only [Function.comp_apply, starred]
    split
    next => simp
    next => rfl
  simp [signature, inner, String.toList_intercalate, words]

theorem bareSignature?_name {name inner : List Char} (named : isDeclaredName name = true)
    (plain : ∀ c ∈ inner, c ≠ '(' ∧ c ≠ ')') :
    bareSignature? (name ++ '(' :: (inner ++ [')'])) = some (String.ofList name, inner) := by
  have opens : isDeclaredNameChar '(' = false := rfl
  obtain ⟨taken, left⟩ := span_name named ('(' :: (inner ++ [')'])) fun c first => Option.some.inj first ▸ opens
  have paren : dropBlanks ('(' :: (inner ++ [')'])) = '(' :: (inner ++ [')']) := rfl
  have closes : ((inner ++ [')']).dropWhile fun c => c ≠ '(' && c ≠ ')') = [')'] := by
    rw [List.dropWhile_append_of_pos (by simpa using plain)]
    rfl
  have inside : ((inner ++ [')']).takeWhile fun c => c ≠ '(' && c ≠ ')') = inner := by
    rw [List.takeWhile_append_of_pos (by simpa using plain)]
    exact List.append_nil _
  cases name with
  | nil => cases named
  | cons c cs =>
    unfold bareSignature?
    simp only [taken, left, paren, closes, inside]
    rfl

variable (declared : ∀ argument ∈ spec.arguments, isDeclaredName argument.toList = true)

include declared

theorem Spec.starred_cases {word : List Char} (held : word ∈ spec.arguments.map spec.starred) :
    ∃ star name : List Char, (star = [] ∨ star = ['*']) ∧ isDeclaredName name = true ∧ word = star ++ name := by
  obtain ⟨argument, among, rfl⟩ := List.mem_map.1 held
  unfold starred
  split
  next => exact ⟨['*'], _, .inr rfl, declared argument among, rfl⟩
  next => exact ⟨[], _, .inl rfl, declared argument among, rfl⟩

theorem Spec.not_mem_starred {word : List Char} (held : word ∈ spec.arguments.map spec.starred) {c : Char}
    (barred : isDeclaredNameChar c = false) (other : c ≠ '*') : c ∉ word := by
  obtain ⟨star, name, one, named, rfl⟩ := starred_cases declared held
  rw [List.mem_append]
  rintro (early | late)
  · rcases one with rfl | rfl
    · cases early
    · exact other (List.mem_singleton.1 early)
  · exact not_mem_of_isDeclaredName named barred late

theorem Spec.ink_of_starred {word : List Char} (held : word ∈ spec.arguments.map spec.starred) :
    word ≠ [] ∧ ∀ c ∈ word, isBlank c = false := by
  obtain ⟨star, name, one, named, rfl⟩ := starred_cases declared held
  constructor
  · intro none
    exact isDeclaredName_ne_nil named (List.append_eq_nil_iff.1 none).2
  · intro c among
    rcases List.mem_append.1 among with early | late
    · rcases one with rfl | rfl
      · cases early
      · obtain rfl := List.mem_singleton.1 early
        rfl
    · exact ink_of_isDeclaredName named c late

theorem Spec.dropStar_starred {argument : String} (held : argument ∈ spec.arguments) :
    dropStar (spec.starred argument) = argument.toList := by
  unfold starred
  split
  next => rfl
  next => simpa using dropStar_name (declared argument held) []

theorem Spec.find?_starred :
    (spec.arguments.map spec.starred).find? (fun word => !isDeclaredName (dropStar word)) = none := by
  rw [List.find?_eq_none]
  intro word held
  obtain ⟨argument, among, rfl⟩ := List.mem_map.1 held
  simp [dropStar_starred declared among, declared argument among]

theorem Spec.map_starred :
    (spec.arguments.map spec.starred).map (fun word => String.ofList (dropStar word)) = spec.arguments := by
  rw [List.map_map]
  refine (List.map_congr_left fun argument held => ?_).trans (List.map_id _)
  simp [dropStar_starred declared held]

theorem Spec.filter_starred : ((spec.arguments.map spec.starred).filter fun word => word.head? = some '*').map
    (fun word => String.ofList (dropStar word)) = spec.arguments.filter spec.isOptional := by
  have stars : ∀ argument ∈ spec.arguments,
      decide ((spec.starred argument).head? = some '*') = spec.isOptional argument := by
    intro argument held
    cases isOptional : spec.isOptional argument with
    | true => simp [starred, isOptional]
    | false =>
      have unstarred : '*' ∉ argument.toList := not_mem_of_isDeclaredName (declared argument held) rfl
      have first : argument.toList.head? ≠ some '*' := fun first => unstarred (List.mem_of_head? first)
      simpa [starred, isOptional] using first
  rw [List.filter_map, List.map_map, ← List.filter_congr stars]
  refine (List.map_congr_left fun argument held => ?_).trans (List.map_id _)
  simp [dropStar_starred declared (List.mem_filter.1 held).1]

theorem signatureNames_inner : signatureNames spec.inner = spec.arguments.map spec.starred := by
  have ink (word : List Char) (held : word ∈ spec.arguments.map spec.starred) := spec.ink_of_starred declared held
  have unbroken : ∀ word ∈ spec.arguments.map spec.starred, ',' ∉ word := fun word held =>
    Spec.not_mem_starred declared held rfl (by decide)
  unfold Spec.inner
  cases words : spec.arguments.map spec.starred with
  | nil => rfl
  | cons word rest =>
    rw [words] at ink unbroken
    obtain ⟨filled, first⟩ := ink word List.mem_cons_self
    have shown : ¬(List.intercalate [',', ' '] (word :: rest)).all isBlank = true := by
      cases word with
      | nil => exact absurd rfl filled
      | cons c cs => cases rest <;> simp [List.intercalate_cons_cons, first c List.mem_cons_self]
    rw [signatureNames, if_neg shown]
    exact Text.splitList_joined [] (by simp) unbroken fun other held => Text.trimList_of_ink (ink other held).2

theorem Spec.no_parenthesis_inner : ∀ c ∈ spec.inner, c ≠ '(' ∧ c ≠ ')' := by
  intro c held
  rcases Text.mem_intercalate held with between | ⟨word, among, within⟩
  · have apart : ∀ c ∈ [',', ' '], c ≠ '(' ∧ c ≠ ')' := by simp
    exact apart c between
  · constructor
    · rintro rfl
      exact Spec.not_mem_starred declared among rfl (by decide) within
    · rintro rfl
      exact Spec.not_mem_starred declared among rfl (by decide) within

/-- The line that ends a declaration is no comment, and gives the name and the arguments. -/
theorem signature?_signature (named : isDeclaredName spec.name.toList = true) :
    commentText? ("fn " ++ spec.signature).toList = none ∧
      signature? ("fn " ++ spec.signature).toList = some (spec.name, spec.inner) := by
  have chars : ("fn " ++ spec.signature).toList =
      'f' :: 'n' :: ' ' :: (spec.name.toList ++ '(' :: (spec.inner ++ [')'])) := by
    rw [String.toList_append, Spec.toList_signature]
    rfl
  have keyword (cs : List Char) :
      (afterKeyword? (dropBlanks ('f' :: 'n' :: ' ' :: cs))).bind bareSignature? = bareSignature? (dropBlanks cs) := rfl
  have bare := bareSignature?_name named (Spec.no_parenthesis_inner declared)
  rw [chars]
  refine ⟨rfl, ?_⟩
  rw [signature?, keyword, dropBlanks_name named, bare]
  simp

theorem isOneLine_signature (named : isDeclaredName spec.name.toList = true) : isOneLine spec.signature = true := by
  have inner : isOneLine (", ".intercalate (spec.arguments.map fun argument =>
      if spec.isOptional argument then "*" ++ argument else argument)) = true := by
    apply Text.isOneLine_intercalate (by decide)
    intro word held
    obtain ⟨argument, among, rfl⟩ := List.mem_map.1 held
    have plain := isOneLine_of_isDeclaredName (declared argument among)
    split
    next =>
      rw [Text.isOneLine_append, plain]
      decide
    next => exact plain
  have opening : isOneLine "(" = true := by decide
  have closing : isOneLine ")" = true := by decide
  simp only [Spec.signature, Text.isOneLine_append, isOneLine_of_isDeclaredName named, opening, inner, closing]
  rfl

end Signatures

end Parley.Tool

