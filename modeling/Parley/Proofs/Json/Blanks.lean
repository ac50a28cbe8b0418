import Mathlib.Data.List.TakeWhile
import Parley.Proofs.Json.Writing

namespace Parley.Json

def followed {α : Type} (more : List Char) (found : α × List Char) : α × List Char := (found.1, found.2 ++ more)

theorem ne_of_isBlank {c ink : Char} (blank : Text.isBlank c = true) (printable : 0x20 < ink.toNat ∧ ink.toNat < 0x7F) :
    c ≠ ink := by
  rintro rfl
  simp only [Text.isBlank, Text.inRanges, Text.blankRanges, List.any_cons, List.any_nil, Bool.or_false, Bool.or_eq_true,
    Bool.and_eq_true, decide_eq_true_eq] at blank
  omega

theorem isAsciiDigit_of_isBlank {c : Char} (blank : Text.isBlank c = true) : Text.isAsciiDigit c = false := by
  unfold Text.isAsciiDigit Text.asciiDigit?
  split
  next digit =>
    simp only [Bool.and_eq_true, decide_eq_true_eq] at digit
    have low : '0'.toNat ≤ c.toNat := digit.1
    have high : c.toNat ≤ '9'.toNat := digit.2
    exact absurd rfl (ne_of_isBlank blank ⟨Nat.lt_of_lt_of_le (by decide) low, Nat.lt_of_le_of_lt high (by decide)⟩)
  next => rfl

def marks : List Char := ['[', ']', '\x7b', '\x7d', ',', ':', '"']

theorem scanToken_of_unmarked {c : Char} (rest : List Char) (unmarked : c ∉ marks) :
    scanToken (c :: rest) = match scanWord (c :: rest) with
      | some (value, rest) => some (.atom value, rest)
      | none => (scanNumber (c :: rest)).map fun found => (numberToken found.1, found.2) := by
  unfold scanToken
  split
  case h_8 => rfl
  all_goals
    next same =>
      obtain ⟨rfl, -⟩ := List.cons.inj same
      exact absurd (by decide) unmarked

theorem unmarked_of_isBlank {c : Char} (blank : Text.isBlank c = true) : c ∉ marks := by
  intro held
  have printable : ∀ mark ∈ marks, 0x20 < mark.toNat ∧ mark.toNat < 0x7F := by simp [marks]
  exact absurd rfl (ne_of_isBlank blank (printable c held))

theorem scanToken_of_isBlank {c : Char} (rest : List Char) (blank : Text.isBlank c = true) :
    scanToken (c :: rest) = none := by
  have apart (ink : Char) (printable : 0x20 < ink.toNat ∧ ink.toNat < 0x7F) : ink ≠ c :=
    (ne_of_isBlank blank printable).symm
  have word : scanWord (c :: rest) = none := by
    simp [scanWord, words, Text.afterList?, apart 'n' (by decide), apart 't' (by decide), apart 'f' (by decide),
      apart 'N' (by decide), apart 'I' (by decide), apart '-' (by decide)]
  have digits : leadingDigits (c :: rest) = [] :=
    List.takeWhile_cons_of_neg (by simp [isAsciiDigit_of_isBlank blank])
  have number : scanNumber (c :: rest) = none := by
    simp [scanNumber, scanUnsigned, scanWhole, digits, (apart '-' (by decide)).symm, (apart '0' (by decide)).symm]
  rw [scanToken_of_unmarked rest (unmarked_of_isBlank blank), word, number]
  rfl

theorem tokens_of_not_scanToken {c : Char} {rest : List Char} (gap : ¬isGap c = true)
    (nothing : scanToken (c :: rest) = none) : tokens (c :: rest) = [.junk] := by
  rw [tokens, if_neg gap]
  split
  next => rfl
  next found =>
    rw [nothing] at found
    cases found

/-- A leading blank is passed over, or nothing behind it is looked at. -/
theorem tokens_cons_of_isBlank {c : Char} (rest : List Char) (blank : Text.isBlank c = true) :
    tokens (c :: rest) = tokens rest ∨ tokens (c :: rest) = [.junk] := by
  by_cases gap : isGap c = true
  · exact .inl (by rw [tokens, if_pos gap])
  · exact .inr (tokens_of_not_scanToken gap (scanToken_of_isBlank rest blank))

def Halts (rest : List Char) : Prop :=
  ∀ c more, rest = c :: more → Text.isAsciiDigit c = false ∧ c ≠ '.' ∧ c ≠ 'e' ∧ c ≠ 'E'

theorem halts_nil : Halts [] := fun _ _ same => nomatch same

section

variable {rest : List Char} (halts : Halts rest)

include halts

theorem leadingDigits_of_halts : leadingDigits rest = [] := by
  cases rest with
  | nil => rfl
  | cons c more => exact List.takeWhile_cons_of_neg (by simp [(halts c more rfl).1])

theorem afterDigits_of_halts : afterDigits rest = rest := by
  cases rest with
  | nil => rfl
  | cons c more => exact List.dropWhile_cons_of_neg (by simp [(halts c more rfl).1])

theorem scanFraction_of_halts : scanFraction rest = ([], rest) := by
  cases rest with
  | nil => rfl
  | cons c more => simp [scanFraction, (halts c more rfl).2.1]

theorem scanExponent_of_halts : scanExponent rest = (none, rest) := by
  cases rest with
  | nil => rfl
  | cons c more => simp [scanExponent, (halts c more rfl).2.2.1, (halts c more rfl).2.2.2]

end

theorem halts_of_isBlank {rest : List Char} (blank : ∀ c ∈ rest, Text.isBlank c = true) : Halts rest := by
  intro c more same
  have first := blank c (same ▸ List.mem_cons_self)
  have apart (ink : Char) (printable : 0x20 < ink.toNat ∧ ink.toNat < 0x7F) : c ≠ ink := ne_of_isBlank first printable
  exact ⟨isAsciiDigit_of_isBlank first, apart '.' (by decide), apart 'e' (by decide), apart 'E' (by decide)⟩

theorem exists_of_scanUnits {cs rest : List Char} {units : List Nat} (scanned : scanUnits cs = some (units, rest)) :
    ∃ body, cs = body ++ '"' :: rest ∧ ∀ more, scanUnits (body ++ '"' :: more) = some (units, more) := by
  fun_induction scanUnits cs generalizing units with
  | case1 => cases scanned
  | case2 =>
    obtain ⟨rfl, rfl⟩ := Prod.mk.inj (Option.some.inj scanned)
    exact ⟨[], rfl, fun _ => rfl⟩
  | case3 a b c d later unit found after ahead named ih =>
    obtain ⟨rfl, rfl⟩ := Prod.mk.inj (Option.some.inj scanned)
    obtain ⟨body, rfl, scans⟩ := ih ahead
    exact ⟨'\\' :: 'u' :: a :: b :: c :: d :: body, rfl, fun more => by simp [scanUnits, named, scans more]⟩
  | case5 e later other c found after ahead named ih =>
    obtain ⟨rfl, rfl⟩ := Prod.mk.inj (Option.some.inj scanned)
    obtain ⟨body, rfl, scans⟩ := ih ahead
    have letter : e ≠ 'u' := by
      rintro rfl
      cases (named : none = some c)
    exact ⟨'\\' :: e :: body, rfl, fun more => by simp [scanUnits, letter, named, scans more]⟩
  | case8 c later quote _ plain high found after ahead ih =>
    obtain ⟨rfl, rfl⟩ := Prod.mk.inj (Option.some.inj scanned)
    obtain ⟨body, rfl, scans⟩ := ih ahead
    have slash : c ≠ '\\' := by
      rintro rfl
      cases body with
      | nil => exact plain _ _ rfl rfl
      | cons => exact plain _ _ rfl rfl
    exact ⟨c :: body, rfl, fun more => by simp [scanUnits, slash, high, scans more]⟩
  | _ => cases scanned

section

variable {trail : List Char} (blank : ∀ c ∈ trail, Text.isBlank c = true)

include blank

theorem scanUnits_append (cs : List Char) : scanUnits (cs ++ trail) = (scanUnits cs).map (followed trail) := by
  cases scanned : scanUnits cs with
  | some found =>
    obtain ⟨body, rfl, scans⟩ := exists_of_scanUnits scanned
    rw [List.append_assoc]
    exact scans (found.2 ++ trail)
  | none =>
    cases further : scanUnits (cs ++ trail) with
    | none => rfl
    | some found =>
      obtain ⟨body, same, scans⟩ := exists_of_scanUnits further
      have outside : '"' ∉ trail := fun inside => absurd rfl (ne_of_isBlank (blank _ inside) (by decide))
      obtain ⟨later, rfl, rfl⟩ | ⟨later, rfl, ends⟩ := List.append_eq_append_iff.1 same
      · exact absurd (List.mem_append_right later List.mem_cons_self) outside
      · cases later with
        | nil => exact absurd (ends.subst (motive := ('"' ∈ ·)) List.mem_cons_self) outside
        | cons quote later =>
          obtain ⟨rfl, -⟩ := List.cons.inj ends
          cases scanned.symm.trans (scans later)

theorem scanText_append (cs : List Char) : scanText (cs ++ trail) = (scanText cs).map (followed trail) := by
  unfold scanText
  rw [scanUnits_append blank]
  cases scanUnits cs with
  | none => rfl
  | some found =>
    simp only [Option.map_some, followed]
    cases charsOfUnits? found.1 with
    | none => rfl
    | some chars => rfl

theorem leadingDigits_append (cs : List Char) : leadingDigits (cs ++ trail) = leadingDigits cs := by
  induction cs with
  | nil => exact leadingDigits_of_halts (halts_of_isBlank blank)
  | cons c rest ih =>
    unfold leadingDigits at ih ⊢
    rw [List.cons_append, List.takeWhile_cons, List.takeWhile_cons, ih]

theorem afterDigits_append (cs : List Char) : afterDigits (cs ++ trail) = afterDigits cs ++ trail := by
  induction cs with
  | nil => exact afterDigits_of_halts (halts_of_isBlank blank)
  | cons c rest ih =>
    unfold afterDigits at ih ⊢
    rw [List.cons_append, List.dropWhile_cons, List.dropWhile_cons, ih]
    split
    · rfl
    · rfl

theorem scanWhole_append (cs : List Char) : scanWhole (cs ++ trail) = (scanWhole cs).map (followed trail) := by
  have ended (digits : List Char) (head : ∀ rest, digits ≠ '0' :: rest) : scanWhole digits =
      if (leadingDigits digits).isEmpty then none else some (leadingDigits digits, afterDigits digits) := by
    unfold scanWhole
    split
    next rest => exact absurd rfl (head rest)
    next => rfl
  by_cases zero : ∃ rest, cs = '0' :: rest
  · obtain ⟨rest, rfl⟩ := zero
    rfl
  · have head (rest : List Char) : cs ++ trail ≠ '0' :: rest := by
      intro same
      cases cs with
      | nil =>
        have inside : '0' ∈ trail := same.symm.subst (motive := ('0' ∈ ·)) List.mem_cons_self
        exact absurd rfl (ne_of_isBlank (blank _ inside) (by decide))
      | cons c cs =>
        obtain ⟨rfl, -⟩ := List.cons.inj same
        exact zero ⟨cs, rfl⟩
    rw [ended _ head, ended _ fun rest same => zero ⟨rest, same⟩, leadingDigits_append blank, afterDigits_append blank]
    split
    · rfl
    · rfl

theorem scanFraction_append (cs : List Char) : scanFraction (cs ++ trail) = followed trail (scanFraction cs) := by
  cases cs with
  | nil => exact scanFraction_of_halts (halts_of_isBlank blank)
  | cons c rest =>
    by_cases point : c = '.'
    · subst point
      simp only [List.cons_append, scanFraction, leadingDigits_append blank, afterDigits_append blank]
      split
      · rfl
      · rfl
    · simp [scanFraction, followed, point]

theorem takeSign_append (cs : List Char) : Text.takeSign (cs ++ trail) = followed trail (Text.takeSign cs) := by
  cases cs with
  | nil =>
    cases trail with
    | nil => rfl
    | cons c rest =>
      have minus : c ≠ '-' := ne_of_isBlank (blank c List.mem_cons_self) (by decide)
      have plus : c ≠ '+' := ne_of_isBlank (blank c List.mem_cons_self) (by decide)
      simp [Text.takeSign, followed, minus, plus]
  | cons c rest =>
    unfold Text.takeSign
    simp only [List.cons_append]
    split
    next same => simp_all [followed]
    next same => simp_all [followed]
    next => simp_all [followed]

theorem scanExponent_append (cs : List Char) : scanExponent (cs ++ trail) = followed trail (scanExponent cs) := by
  cases cs with
  | nil => exact scanExponent_of_halts (halts_of_isBlank blank)
  | cons c rest =>
    simp only [List.cons_append, scanExponent, takeSign_append blank]
    split
    next =>
      simp only [followed, leadingDigits_append blank, afterDigits_append blank]
      split
      · rfl
      · rfl
    next => rfl

theorem scanUnsigned_append (negative : Bool) (cs : List Char) :
    scanUnsigned negative (cs ++ trail) = (scanUnsigned negative cs).map (followed trail) := by
  unfold scanUnsigned
  rw [scanWhole_append blank]
  cases scanWhole cs with
  | none => rfl
  | some found =>
    simp only [Option.map_some, followed, scanFraction_append blank, scanExponent_append blank]
    split
    · rfl
    · rfl

theorem scanNumber_append (cs : List Char) : scanNumber (cs ++ trail) = (scanNumber cs).map (followed trail) := by
  cases cs with
  | nil =>
    cases trail with
    | nil => rfl
    | cons c rest =>
      have minus : c ≠ '-' := ne_of_isBlank (blank c List.mem_cons_self) (by decide)
      have same : scanNumber (c :: rest) = scanUnsigned false ([] ++ c :: rest) := by simp [scanNumber, minus]
      rw [List.nil_append, same, scanUnsigned_append blank]
      rfl
  | cons c rest =>
    by_cases minus : c = '-'
    · subst minus
      exact scanUnsigned_append blank true rest
    · have same (more : List Char) : scanNumber (c :: more) = scanUnsigned false (c :: more) := by
        simp [scanNumber, minus]
      rw [List.cons_append, same, same]
      exact scanUnsigned_append blank false (c :: rest)

theorem afterList?_append_trail {word : List Char} (inked : ∀ c ∈ word, 0x20 < c.toNat ∧ c.toNat < 0x7F)
    (cs : List Char) : Text.afterList? word (cs ++ trail) = (Text.afterList? word cs).map (· ++ trail) := by
  induction word generalizing cs with
  | nil => rfl
  | cons p word ih =>
    have later := ih fun c held => inked c (List.mem_cons_of_mem _ held)
    cases cs with
    | nil =>
      cases trail with
      | nil => rfl
      | cons c rest =>
        have apart : p ≠ c := (ne_of_isBlank (blank c List.mem_cons_self) (inked p List.mem_cons_self)).symm
        simp [Text.afterList?, apart]
    | cons c rest =>
      simp only [List.cons_append, Text.afterList?, later]
      split
      · rfl
      · rfl

theorem scanWord_append (cs : List Char) : scanWord (cs ++ trail) = (scanWord cs).map (followed trail) := by
  have inked : ∀ word ∈ words.map Prod.fst, ∀ c ∈ word, 0x20 < c.toNat ∧ c.toNat < 0x7F := by simp [words]
  unfold scanWord
  generalize words = choices at inked
  rw [List.map_findSome?]
  induction choices with
  | nil => rfl
  | cons word rest ih =>
    have spelled := inked word.1 List.mem_cons_self
    have later := ih fun other held => inked other (List.mem_cons_of_mem _ held)
    simp only [List.findSome?_cons, afterList?_append_trail blank spelled, later, Function.comp_apply]
    cases Text.afterList? word.1 cs with
    | none => rfl
    | some after => rfl

theorem scanToken_append (c : Char) (cs : List Char) :
    scanToken (c :: (cs ++ trail)) = (scanToken (c :: cs)).map (followed trail) := by
  by_cases marked : c ∈ marks
  · simp only [marks, List.mem_cons, List.not_mem_nil, or_false] at marked
    obtain rfl | rfl | rfl | rfl | rfl | rfl | rfl := marked
    case inr.inr.inr.inr.inr.inr =>
      simp only [scanToken, scanText_append blank, Option.map_map]
      rfl
    all_goals rfl
  · rw [scanToken_of_unmarked _ marked, scanToken_of_unmarked _ marked, ← List.cons_append, scanWord_append blank,
      scanNumber_append blank]
    cases scanWord (c :: cs) with
    | some found => rfl
    | none =>
      simp only [Option.map_none, Option.map_map]
      rfl

theorem tokens_blank : tokens trail = [] ∨ tokens trail = [.junk] := by
  induction trail with
  | nil => exact .inl (by rw [tokens])
  | cons c rest ih =>
    obtain same | junk := tokens_cons_of_isBlank rest (blank c List.mem_cons_self)
    · rw [same]
      exact ih fun other held => blank other (List.mem_cons_of_mem _ held)
    · exact .inr junk

/-- Blanks behind a text change its tokens at most by text that is none. -/
theorem tokens_append (cs : List Char) :
    tokens (cs ++ trail) = tokens cs ∨ tokens (cs ++ trail) = tokens cs ++ [.junk] := by
  fun_induction tokens cs with
  | case1 =>
    obtain nothing | junk := tokens_blank blank
    · exact .inl nothing
    · exact .inr junk
  | case2 c rest gap ih =>
    have same : tokens (c :: rest ++ trail) = tokens (rest ++ trail) := by
      rw [List.cons_append, tokens, if_pos gap]
    rwa [same]
  | case3 c rest gap none =>
    have further : scanToken (c :: (rest ++ trail)) = Option.none := by rw [scanToken_append blank, none, Option.map_none]
    exact .inl (tokens_of_not_scanToken gap further)
  | case4 c rest gap token later found ih =>
    have further : scanToken (c :: (rest ++ trail)) = some (token, later ++ trail) := by
      rw [scanToken_append blank, found]
      rfl
    rw [List.cons_append, tokens_of_scanToken (Bool.eq_false_iff.2 gap) further]
    obtain same | junk := ih
    · exact .inl (by rw [same])
    · exact .inr (by rw [junk, List.cons_append])

end

theorem advance_junk (state : Reading) : advance state .junk = .error .malformed := by
  obtain ⟨stage, frames⟩ := state
  cases stage with
  | done value => cases frames with
    | nil => rfl
    | cons frame rest => cases frame with
      | list before => rfl
      | object before key => rfl
  | _ => rfl

theorem run_junk (state : Reading) (found : List Token) : ∃ defect, run state (found ++ [.junk]) = .error defect := by
  rw [run_append]
  cases run state found with
  | error defect => exact ⟨defect, rfl⟩
  | ok middle => exact ⟨.malformed, by simp only [Except.bind, run, advance_junk]⟩

theorem readList_ne_junk {cs : List Char} {value : Json} {found : List Token} (read : readList cs = .ok value) :
    tokens cs ≠ found ++ [.junk] := by
  intro same
  obtain ⟨defect, fails⟩ := run_junk (.value, []) found
  rw [readList, same, fails] at read
  cases read

theorem readList_dropWhile {cs : List Char} {value : Json} (read : readList cs = .ok value) :
    readList (cs.dropWhile Text.isBlank) = .ok value := by
  induction cs with
  | nil => exact read
  | cons c rest ih =>
    cases blank : Text.isBlank c with
    | false => rwa [List.dropWhile_cons_of_neg (by simp [blank])]
    | true =>
      rw [List.dropWhile_cons_of_pos blank]
      obtain same | junk := tokens_cons_of_isBlank rest blank
      · refine ih ?_
        rwa [readList, same] at read
      · exact absurd (junk.trans (List.nil_append _).symm) (readList_ne_junk read)

theorem readList_dropEnd {cs : List Char} {value : Json} (read : readList cs = .ok value) :
    readList (cs.reverse.dropWhile Text.isBlank).reverse = .ok value := by
  have parts : (cs.reverse.dropWhile Text.isBlank).reverse ++ (cs.reverse.takeWhile Text.isBlank).reverse = cs := by
    rw [← List.reverse_append, List.takeWhile_append_dropWhile, List.reverse_reverse]
  have blank : ∀ c ∈ (cs.reverse.takeWhile Text.isBlank).reverse, Text.isBlank c = true :=
    fun _ held => List.mem_takeWhile_imp (List.mem_reverse.1 held)
  obtain same | junk := tokens_append blank (cs.reverse.dropWhile Text.isBlank).reverse
  · rw [parts] at same
    rwa [readList, same] at read
  · rw [parts] at junk
    exact absurd junk (readList_ne_junk read)

/-- A text that is read is read without the blanks around it. -/
theorem readList_trimList {cs : List Char} {value : Json} (read : readList cs = .ok value) :
    readList (Text.trimList cs) = .ok value :=
  readList_dropEnd (readList_dropWhile read)

theorem isBlankText_of_readList {text : String} {value : Json} (read : readList text.toList = .ok value) :
    Text.isBlankText text = false := by
  refine Bool.eq_false_iff.2 fun blank => ?_
  have nothing : text.toList.dropWhile Text.isBlank = [] := List.dropWhile_eq_nil_iff.2 (List.all_eq_true.1 blank)
  have read := readList_dropWhile read
  rw [nothing, readList, tokens] at read
  cases read

end Parley.Json

