import Parley.Proofs.Json.Roundtrip

namespace Parley

namespace Text

def endless : Nat := Nat.pow 10 digitLimit

-- The power is too large to be evaluated, so the proofs about it leave the limit of digits open.
theorem not_isWritable_endless : isWritable endless = false := by
  unfold isWritable endless
  generalize digitLimit = places
  exact decide_eq_false (Nat.lt_irrefl (Nat.pow 10 places))

theorem endless_pos : 0 < endless := by
  unfold endless
  generalize digitLimit = places
  exact Nat.pow_pos (by decide)

theorem isWritable_pred_endless : isWritable (endless - 1 : Nat) = true := by
  have below := Nat.sub_lt endless_pos Nat.one_pos
  unfold isWritable
  unfold endless at below ⊢
  generalize digitLimit = places at below ⊢
  exact decide_eq_true below

theorem length_endless : (natDigits endless).length ≤ digitLimit + 1 := by
  rw [natDigits, Nat.length_toDigits_le_iff (by decide) (Nat.succ_pos _)]
  unfold endless
  generalize digitLimit = places
  exact Nat.pow_lt_pow_right (by decide) (Nat.lt_succ_self places)

end Text

namespace Json

/-- The first thing in a value that keeps it from being read back, with so much room for containers within one another,
is an integer of so many digits. -/
inductive Overflows : Nat → Json → Nat → Prop where
  | integer {room : Nat} {value : Int} (overlong : Text.isWritable value = false) :
      Overflows room (.number (.int value)) (Text.natDigits value.natAbs).length
  | list {room digits : Nat} {before after : List Json} {item : Json} (sound : rereadsItems room before = true)
      (inside : Overflows room item digits) : Overflows (room + 1) (.list (before ++ item :: after)) digits
  | object {room digits : Nat} {before after : List (String × Json)} {key : String} {item : Json}
      (sound : rereadsFields room before = true) (inside : Overflows room item digits) :
      Overflows (room + 1) (.object (before ++ (key, item) :: after)) digits

/-- Reading the text of a value ends within it, whatever containers are open around it and whatever comes behind it. -/
def Stops (room : Nat) (value : Json) (defect : Defect) : Prop :=
  ∀ (frames : List Frame) (rest : List Char), frames.length + room ≤ depthLimit → Halts rest →
    run (.value, frames) (tokens (written value ++ rest)) = .error defect

section

variable {room : Nat} {item : Json} {defect : Defect} (stops : Stops room item defect)

include stops

theorem run_writtenItems_of_stops {before : List Json} (sound : rereadsItems room before = true) (after : List Json)
    (value : Json) (got : List Json) {frames : List Frame} (rest : List Char)
    (fits : (Frame.list got :: frames).length + room ≤ depthLimit) :
    run (.done value, .list got :: frames) (tokens (writtenItems (before ++ item :: after) ++ rest)) = .error defect := by
  induction before generalizing value got with
  | nil =>
    simp only [List.nil_append, writtenItems, List.cons_append, List.append_assoc, tokens_comma, tokens_gap, run]
    exact stops (.list (value :: got) :: frames) _ fits (halts_writtenItems after rest)
  | cons next before ih =>
    simp only [rereadsItems, Bool.and_eq_true] at sound
    have inner : (Frame.list (value :: got) :: frames).length + room ≤ depthLimit := fits
    have others := ih sound.2 next (value :: got) fits
    rw [← run_tokensOf next room _ _ sound.1 inner] at others
    simp only [List.cons_append, writtenItems, List.append_assoc, tokens_comma, tokens_gap, run,
      tokens_written next _ sound.1 (halts_writtenItems _ rest)]
    exact others

theorem run_writtenFields_of_stops {before : List (String × Json)} (sound : rereadsFields room before = true)
    (key : String) (after : List (String × Json)) (value : Json) (got : Fields) (last : String) {frames : List Frame} (rest : List Char)
    (fits : (Frame.object got last :: frames).length + room ≤ depthLimit) :
    run (.done value, .object got last :: frames) (tokens (writtenFields (before ++ (key, item) :: after) ++ rest)) =
      .error defect := by
  induction before generalizing value got last with
  | nil =>
    simp only [List.nil_append, writtenFields, List.cons_append, List.append_assoc, tokens_comma, tokens_gap,
      tokens_writtenText, tokens_colon, run]
    exact stops (.object (got.put last value) key :: frames) _ fits (halts_writtenFields after rest)
  | cons entry before ih =>
    obtain ⟨name, next⟩ := entry
    simp only [rereadsFields, Bool.and_eq_true] at sound
    have inner : (Frame.object (got.put last value) name :: frames).length + room ≤ depthLimit := fits
    have others := ih sound.2 next (got.put last value) name fits
    rw [← run_tokensOf next room _ _ sound.1 inner] at others
    simp only [List.cons_append, writtenFields, List.append_assoc, tokens_comma, tokens_gap, tokens_writtenText,
      tokens_colon, run, tokens_written next _ sound.1 (halts_writtenFields _ rest)]
    exact others

end

theorem tokens_of_overflows {room digits : Nat} {value : Json} (overflows : Overflows room value digits)
    {rest : List Char} (halts : Halts rest) :
    ∃ token more, tokens (written value ++ rest) = token :: more ∧ token ≠ .closeList := by
  cases overflows with
  | @integer _ value overlong =>
    refine ⟨_, _, tokens_integer value halts, ?_⟩
    simp [numberToken, overlong]
  | @list _ _ before after item sound inside =>
    cases before with
    | nil => exact ⟨.openList, _, tokens_openList _, by simp⟩
    | cons => exact ⟨.openList, _, tokens_openList _, by simp⟩
  | @object _ _ before after key item sound inside =>
    cases before with
    | nil => exact ⟨.openObject, _, tokens_openObject _, by simp⟩
    | cons => exact ⟨.openObject, _, tokens_openObject _, by simp⟩

/-- The integer is come to, as all that is written before it is read. -/
theorem stops_of_overflows {room digits : Nat} {value : Json} (overflows : Overflows room value digits) :
    Stops room value (.oversized digits) := by
  induction overflows with
  | @integer _ value overlong =>
    intro frames rest _ halts
    have integer : numberToken (.int value) = .oversized (Text.natDigits value.natAbs).length := by
      simp only [numberToken, overlong, Bool.false_eq_true, if_false]
    have number := tokens_integer value halts
    rw [integer] at number
    change run _ (tokens ((Text.intText value).toList ++ rest)) = _
    rw [number]
    rfl
  | @list room _ before after item sound inside stops =>
    intro frames rest fits _
    have opens : advance (.value, frames) .openList = .ok (.firstItem, frames) :=
      openIn_of_room _ (Nat.succ_pos room) fits
    have inner : (Frame.list [] :: frames).length + room ≤ depthLimit := by
      rw [List.length_cons]
      omega
    cases before with
    | nil =>
      have within := stops (.list [] :: frames) (writtenItems after ++ rest) inner (halts_writtenItems after rest)
      obtain ⟨token, more, first, starts⟩ := tokens_of_overflows inside (halts_writtenItems after rest)
      rw [first, ← run_firstItem_cons starts, ← first] at within
      simp only [List.nil_append, written, List.cons_append, List.append_assoc, tokens_openList, run, opens, Except.bind]
      exact within
    | cons next before =>
      simp only [rereadsItems, Bool.and_eq_true] at sound
      have others := run_writtenItems_of_stops stops sound.2 after next [] rest inner
      rw [← run_tokensOf next room _ _ sound.1 inner, ← run_firstItem] at others
      simp only [List.cons_append, written, List.append_assoc, tokens_openList, run, opens, Except.bind,
        tokens_written next _ sound.1 (halts_writtenItems _ rest)]
      exact others
  | @object room _ before after key item sound inside stops =>
    intro frames rest fits _
    have opens : advance (.value, frames) .openObject = .ok (.firstKey, frames) :=
      openIn_of_room _ (Nat.succ_pos room) fits
    have inner (key : String) : (Frame.object [] key :: frames).length + room ≤ depthLimit := by
      rw [List.length_cons]
      omega
    cases before with
    | nil =>
      have within := stops (.object [] key :: frames) (writtenFields after ++ rest) (inner key)
        (halts_writtenFields after rest)
      simp only [List.nil_append, written, List.cons_append, List.append_assoc, tokens_openObject, tokens_writtenText,
        tokens_colon, tokens_gap, run, opens, Except.bind]
      exact within
    | cons entry before =>
      obtain ⟨name, next⟩ := entry
      simp only [rereadsFields, Bool.and_eq_true] at sound
      have others := run_writtenFields_of_stops stops sound.2 key after next [] name rest (inner name)
      rw [← run_tokensOf next room _ _ sound.1 (inner name)] at others
      simp only [List.cons_append, written, List.append_assoc, tokens_openObject, tokens_writtenText, tokens_colon,
        tokens_gap, run, opens, Except.bind, tokens_written next _ sound.1 (halts_writtenFields _ rest)]
      exact others

/-- The text of a value is not read if an integer in it has too many digits. -/
theorem readList_of_overflows {digits : Nat} {value : Json} (overflows : Overflows depthLimit value digits) :
    readList (written value) = .error (.oversized digits) := by
  have stops := stops_of_overflows overflows [] [] (Nat.le_of_eq (Nat.zero_add _)) halts_nil
  rw [List.append_nil] at stops
  rw [readList, stops]
  rfl

end Json

end Parley

