import Parley.Json.Reader
import Parley.Json.Writer

namespace Parley.Json

theorem hexUnit?_hexDigits {unit : Nat} (small : unit < 0x10000) :
    ∃ a b c d, Text.hexDigits 4 unit = [a, b, c, d] ∧ hexUnit? a b c d = some unit := by
  have digit (value : Nat) : Text.hexValue? (Text.hexDigit (value % 16)) = some (value % 16) :=
    Text.hexValue?_hexDigit (Nat.mod_lt _ (by decide))
  refine ⟨_, _, _, _, rfl, ?_⟩
  simp only [hexUnit?, digit, Option.bind_eq_bind, Option.bind_some, Option.some.injEq]
  omega

def prepend (units : List Nat) (found : Option (List Nat × List Char)) : Option (List Nat × List Char) :=
  found.map fun found => (units ++ found.1, found.2)

theorem prepend_nil (found : Option (List Nat × List Char)) : prepend [] found = found := by
  cases found with
  | none => rfl
  | some found => rfl

theorem prepend_append (first second : List Nat) (found : Option (List Nat × List Char)) :
    prepend first (prepend second found) = prepend (first ++ second) found := by
  cases found with
  | none => rfl
  | some found => simp [prepend]

theorem scanUnits_writtenUnit {unit : Nat} (small : unit < 0x10000) (rest : List Char) :
    scanUnits (writtenUnit unit ++ rest) = prepend [unit] (scanUnits rest) := by
  obtain ⟨a, b, c, d, digits, value⟩ := hexUnit?_hexDigits small
  simp only [writtenUnit, digits, List.cons_append, List.nil_append, scanUnits, value]
  cases scanUnits rest with
  | none => rfl
  | some found => rfl

theorem scanUnits_plain {c : Char} (unquoted : c ≠ '"') (unescaped : c ≠ '\\') (visible : 0x20 ≤ c.toNat)
    (rest : List Char) : scanUnits (c :: rest) = prepend [c.toNat] (scanUnits rest) := by
  rw [scanUnits]
  · rw [if_neg (by omega)]
    cases scanUnits rest with
    | none => rfl
    | some found => rfl
  · exact unquoted
  · intro _ _ _ _ _ same
    exact absurd same unescaped
  · intro _ _ same
    exact absurd same unescaped

theorem scanUnits_escape {e c : Char} (stands : escaped? e = some c) (rest : List Char) :
    scanUnits ('\\' :: e :: rest) = prepend [c.toNat] (scanUnits rest) := by
  rw [scanUnits]
  · rw [stands]
    cases scanUnits rest with
    | none => rfl
    | some found => rfl
  · intro _ _ _ _ _ same
    rw [same] at stands
    cases stands

theorem unitsOfChar_plane {c : Char} (first : c.toNat < 0x10000) : unitsOfChar c = [c.toNat] := if_pos first

theorem valid_cases (c : Char) : c.toNat < 0xD800 ∨ (0xDFFF < c.toNat ∧ c.toNat < 0x110000) := c.valid

theorem unitsOfChar_small (c : Char) : ∀ unit ∈ unitsOfChar c, unit < 0x10000 := by
  intro unit held
  have valid := valid_cases c
  unfold unitsOfChar at held
  split at held
  next first =>
    obtain rfl := List.mem_singleton.1 held
    exact first
  next =>
    simp only [List.mem_cons, List.not_mem_nil, or_false] at held
    omega

theorem scanUnits_writtenUnits {units : List Nat} (small : ∀ unit ∈ units, unit < 0x10000) (rest : List Char) :
    scanUnits (units.flatMap writtenUnit ++ rest) = prepend units (scanUnits rest) := by
  induction units with
  | nil => exact (prepend_nil _).symm
  | cons unit units ih =>
    have later := ih fun unit held => small unit (List.mem_cons_of_mem _ held)
    rw [List.flatMap_cons, List.append_assoc, scanUnits_writtenUnit (small unit List.mem_cons_self), later,
      prepend_append]
    rfl

/-- A character is written after a backslash, as it is, or by its units. -/
theorem writtenChar_cases (c : Char) :
    (∃ e, escaped? e = some c ∧ writtenChar c = ['\\', e]) ∨
    (c ≠ '"' ∧ c ≠ '\\' ∧ ' ' ≤ c ∧ c ≤ '~' ∧ writtenChar c = [c]) ∨
    writtenChar c = (unitsOfChar c).flatMap writtenUnit := by
  by_cases escapes : c ∈ ['"', '\\', '\n', '\r', '\t', '\x08', '\x0C']
  · simp only [List.mem_cons, List.not_mem_nil, or_false] at escapes
    obtain rfl | rfl | rfl | rfl | rfl | rfl | rfl := escapes
    all_goals exact .inl ⟨_, rfl, rfl⟩
  · simp only [List.mem_cons, List.not_mem_nil, or_false, not_or] at escapes
    obtain ⟨quote, backslash, feed, back, tab, bell, form⟩ := escapes
    right
    simp only [writtenChar, quote, backslash, feed, back, tab, bell, form, if_false]
    split
    next visible =>
      simp only [Bool.and_eq_true, decide_eq_true_eq] at visible
      exact .inl ⟨quote, backslash, visible.1, visible.2, rfl⟩
    next => exact .inr rfl

theorem scanUnits_writtenChar (c : Char) (rest : List Char) :
    scanUnits (writtenChar c ++ rest) = prepend (unitsOfChar c) (scanUnits rest) := by
  obtain ⟨e, stands, same⟩ | ⟨unquoted, unescaped, least, greatest, same⟩ | same := writtenChar_cases c
  · have plane : c.toNat < 0x10000 := by
      unfold escaped? at stands
      split at stands
      all_goals cases stands
      all_goals decide
    rw [same, unitsOfChar_plane plane]
    exact scanUnits_escape stands rest
  · have least : 0x20 ≤ c.toNat := least
    have greatest : c.toNat ≤ 0x7E := greatest
    rw [same, unitsOfChar_plane (by omega)]
    exact scanUnits_plain unquoted unescaped least rest
  · rw [same]
    exact scanUnits_writtenUnits (unitsOfChar_small c) rest

theorem scanUnits_written (cs rest : List Char) :
    scanUnits (cs.flatMap writtenChar ++ '"' :: rest) = some (cs.flatMap unitsOfChar, rest) := by
  induction cs with
  | nil => simp [scanUnits]
  | cons c cs ih =>
    rw [List.flatMap_cons, List.append_assoc, scanUnits_writtenChar, ih]
    rfl

/-- The units of a character are read as one character, whatever follows: one that is not a surrogate stands for
itself, and a pair of surrogates stands for the character that it splits. -/
theorem charsOfUnits?_unitsOfChar (c : Char) (units : List Nat) :
    charsOfUnits? (unitsOfChar c ++ units) = (charsOfUnits? units).map (c :: ·) := by
  have valid := valid_cases c
  by_cases plane : c.toNat < 0x10000
  · rw [unitsOfChar_plane plane]
    cases units with
    | nil => simp [charsOfUnits?, charOfPoint?_toNat]
    | cons next rest =>
      have lone : isHighSurrogate c.toNat = false := by
        simp only [isHighSurrogate, Bool.and_eq_false_iff, decide_eq_false_iff_not]
        omega
      simp only [List.cons_append, List.nil_append, charsOfUnits?, lone, Bool.false_and, Bool.false_eq_true, if_false,
        charOfPoint?_toNat]
      cases charsOfUnits? (next :: rest) with
      | none => rfl
      | some cs => rfl
  · have high : isHighSurrogate (0xD800 + (c.toNat - 0x10000) / 0x400) = true := by
      simp only [isHighSurrogate, Bool.and_eq_true, decide_eq_true_eq]
      omega
    have low : isLowSurrogate (0xDC00 + (c.toNat - 0x10000) % 0x400) = true := by
      simp only [isLowSurrogate, Bool.and_eq_true, decide_eq_true_eq]
      omega
    have whole : 0x10000 + (0xD800 + (c.toNat - 0x10000) / 0x400 - 0xD800) * 0x400 +
        (0xDC00 + (c.toNat - 0x10000) % 0x400 - 0xDC00) = c.toNat := by
      omega
    simp only [unitsOfChar, plane, if_false, List.cons_append, List.nil_append, charsOfUnits?, high, low, Bool.and_self,
      if_true, whole, charOfPoint?_toNat]
    cases charsOfUnits? units with
    | none => rfl
    | some cs => rfl

theorem charsOfUnits?_units (cs : List Char) : charsOfUnits? (cs.flatMap unitsOfChar) = some cs := by
  induction cs with
  | nil => rfl
  | cons c cs ih =>
    rw [List.flatMap_cons, charsOfUnits?_unitsOfChar, ih]
    rfl

theorem scanText_written (text : String) (rest : List Char) :
    scanText (text.toList.flatMap writtenChar ++ '"' :: rest) = some (text, rest) := by
  simp only [scanText, scanUnits_written, charsOfUnits?_units, Option.map_some, String.ofList_toList]

theorem tokens_of_scanToken {c : Char} {cs rest : List Char} {token : Token} (solid : isGap c = false)
    (found : scanToken (c :: cs) = some (token, rest)) : tokens (c :: cs) = token :: tokens rest := by
  rw [tokens]
  simp only [solid, Bool.false_eq_true, if_false]
  split
  next none => cases found.symm.trans none
  next token' rest' some =>
    obtain ⟨rfl, rfl⟩ := Prod.mk.inj (Option.some.inj (found.symm.trans some))
    rfl

theorem writtenText_append (text : String) (rest : List Char) :
    writtenText text ++ rest = '"' :: (text.toList.flatMap writtenChar ++ '"' :: rest) := by
  simp [writtenText]

theorem tokens_writtenText (text : String) (rest : List Char) :
    tokens (writtenText text ++ rest) = .atom (.text text) :: tokens rest := by
  rw [writtenText_append]
  refine tokens_of_scanToken (by decide) ?_
  rw [scanToken, scanText_written]
  rfl

theorem readList_writtenText (text : String) : readList (writtenText text) = .ok (.text text) := by
  have token := tokens_writtenText text []
  rw [List.append_nil, tokens] at token
  rw [readList, token]
  rfl

end Parley.Json

