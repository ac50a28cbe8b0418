import Parley.Extraction.Payload
import Parley.Proofs.Extraction.Scanning
import Parley.Proofs.Json.Roundtrip

namespace Parley

namespace Extraction

def braceChange (c : Char) : Int := if c = '\x7b' then 1 else if c = '\x7d' then -1 else 0

def surplus : List Char → Int
  | [] => 0
  | c :: rest => braceChange c + surplus rest

@[simp]
theorem surplus_nil : surplus [] = 0 := rfl

@[simp]
theorem surplus_cons (c : Char) (cs : List Char) : surplus (c :: cs) = braceChange c + surplus cs := rfl

@[simp]
theorem surplus_append (first second : List Char) : surplus (first ++ second) = surplus first + surplus second := by
  induction first with
  | nil => simp
  | cons c first ih => simp [ih, Int.add_assoc]

/-- With so many braces open before them, some characters close the last one at their end and not before. -/
structure ClosesFrom (height : Int) (cs : List Char) : Prop where
  whole : height + surplus cs = 0
  inside : ∀ before after, cs = before ++ after → after ≠ [] → 0 < height + surplus before

/-- A block: it opens with a brace, which is closed at its end and not before. -/
structure Closes (cs : List Char) : Prop where
  opens : cs.head? = some '\x7b'
  whole : surplus cs = 0
  inside : ∀ before after, cs = before ++ after → before ≠ [] → after ≠ [] → 0 < surplus before

theorem closesFrom_nil {height : Int} : ClosesFrom height [] ↔ height = 0 := by
  refine ⟨fun closes => by simpa using closes.whole, fun level => ⟨by simp [level], fun before after split open_ => ?_⟩⟩
  exact absurd (List.append_eq_nil_iff.1 split.symm).2 open_

theorem closesFrom_cons {height : Int} {c : Char} {cs : List Char} :
    ClosesFrom height (c :: cs) ↔ 0 < height ∧ ClosesFrom (height + braceChange c) cs := by
  constructor
  · intro closes
    have start := closes.inside [] (c :: cs) rfl (by simp)
    refine ⟨by simpa using start, by simpa [Int.add_assoc] using closes.whole, fun before after split open_ => ?_⟩
    simpa [Int.add_assoc] using closes.inside (c :: before) after (by rw [split, List.cons_append]) open_
  · intro holds
    obtain ⟨start, closes⟩ := holds
    refine ⟨by simpa [Int.add_assoc] using closes.whole, fun before after split open_ => ?_⟩
    cases before with
    | nil => simpa using start
    | cons first before =>
      obtain ⟨rfl, rest⟩ := List.cons.inj split
      simpa [Int.add_assoc] using closes.inside before after rest open_

theorem closesFrom_zero {cs : List Char} : ClosesFrom 0 cs ↔ cs = [] := by
  cases cs with
  | nil => simp [closesFrom_nil]
  | cons c cs => simp [closesFrom_cons]

theorem closes_cons {c : Char} {cs : List Char} : Closes (c :: cs) ↔ c = '\x7b' ∧ ClosesFrom 1 cs := by
  have change : braceChange '\x7b' = 1 := rfl
  constructor
  · intro closes
    obtain rfl := Option.some.inj closes.opens
    refine ⟨rfl, by simpa [change] using closes.whole, fun before after split open_ => ?_⟩
    simpa [change] using closes.inside ('\x7b' :: before) after (by rw [split, List.cons_append]) (by simp) open_
  · intro holds
    obtain ⟨rfl, closes⟩ := holds
    refine ⟨rfl, by simpa [change] using closes.whole, fun before after split filled open_ => ?_⟩
    cases before with
    | nil => exact absurd rfl filled
    | cons first before =>
      obtain ⟨rfl, rest⟩ := List.cons.inj split
      simpa [change] using closes.inside before after rest open_

theorem not_closes_nil : ¬ Closes [] := fun closes => nomatch closes.opens

theorem closeBraces_cons (depth : Nat) (c : Char) (cs : List Char) :
    ((depth + 1 : Int) + braceChange c = 0 ∧ closeBraces depth (c :: cs) = some [c]) ∨
      ∃ next : Nat, (next + 1 : Int) = depth + 1 + braceChange c ∧
        closeBraces depth (c :: cs) = (closeBraces next cs).map (c :: ·) := by
  by_cases opens : c = '\x7b'
  · exact .inr ⟨depth + 1, by simp [braceChange, opens], by simp [closeBraces, opens]⟩
  · by_cases closes : c = '\x7d'
    · subst closes
      have change : braceChange '\x7d' = -1 := rfl
      cases depth with
      | zero => exact .inl ⟨rfl, rfl⟩
      | succ depth => exact .inr ⟨depth, by rw [change]; omega, rfl⟩
    · exact .inr ⟨depth, by simp [braceChange, opens, closes], by simp [closeBraces, opens, closes]⟩

/-- The search for the end of a block finds the one piece at the start of a text that closes all braces. Besides those it
counts, the brace is open that the block starts with. -/
theorem closeBraces_eq_some {depth : Nat} {cs piece : List Char} :
    closeBraces depth cs = some piece ↔ piece <+: cs ∧ ClosesFrom (depth + 1) piece := by
  have filled (depth : Nat) : ¬ ClosesFrom (depth + 1) [] := fun closes => by
    have level := closesFrom_nil.1 closes
    omega
  induction cs generalizing depth piece with
  | nil =>
    simp only [closeBraces, reduceCtorEq, List.prefix_nil, false_iff, not_and]
    rintro rfl
    exact filled depth
  | cons c cs ih =>
    have start : (0 : Int) < depth + 1 := by omega
    cases piece with
    | nil =>
      obtain ⟨_, same⟩ | ⟨_, _, same⟩ := closeBraces_cons depth c cs
      · simp [same, filled]
      · simp [same, filled]
    | cons first piece =>
      rw [List.cons_prefix_cons, closesFrom_cons]
      obtain ⟨level, same⟩ | ⟨next, level, same⟩ := closeBraces_cons depth c cs
      · rw [same]
        constructor
        · intro last
          obtain ⟨rfl, rfl⟩ := List.cons.inj (Option.some.inj last)
          exact ⟨⟨rfl, List.nil_prefix⟩, start, by rw [level]; exact closesFrom_zero.2 rfl⟩
        · intro holds
          obtain ⟨⟨rfl, _⟩, _, closes⟩ := holds
          rw [level, closesFrom_zero] at closes
          rw [closes]
      · rw [same, Option.map_eq_some_iff]
        constructor
        · intro holds
          obtain ⟨rest, found, split⟩ := holds
          obtain ⟨rfl, rfl⟩ := List.cons.inj split
          obtain ⟨leads, closes⟩ := ih.1 found
          exact ⟨⟨rfl, leads⟩, start, level ▸ closes⟩
        · intro holds
          obtain ⟨⟨rfl, leads⟩, _, closes⟩ := holds
          exact ⟨piece, ih.2 ⟨leads, level.symm ▸ closes⟩, rfl⟩

theorem blockAt?_eq_some {cs block : List Char} : blockAt? cs = some block ↔ block <+: cs ∧ Closes block := by
  cases cs with
  | nil =>
    simp only [blockAt?, reduceCtorEq, List.prefix_nil, false_iff, not_and]
    rintro rfl
    exact not_closes_nil
  | cons c cs =>
    cases block with
    | nil => simp [blockAt?, not_closes_nil]
    | cons first block =>
      have inner : closeBraces 0 cs = some block ↔ block <+: cs ∧ ClosesFrom 1 block := closeBraces_eq_some
      rw [List.cons_prefix_cons, closes_cons, blockAt?]
      by_cases opens : c = '\x7b'
      · simp only [opens, if_true, Option.map_eq_some_iff, List.cons.injEq, exists_eq_right_right, inner]
        grind
      · grind

/-- The blocks of a text are its pieces that are blocks. -/
theorem mem_braceBlocks {cs block : List Char} : block ∈ braceBlocks cs ↔ block <:+: cs ∧ Closes block := by
  induction cs with
  | nil =>
    simp only [braceBlocks, List.not_mem_nil, List.infix_nil, false_iff, not_and]
    rintro rfl
    exact not_closes_nil
  | cons c cs ih =>
    rw [braceBlocks, List.mem_append, Option.mem_toList, blockAt?_eq_some, ih, List.infix_cons_iff, or_and_right]

instance (cs : List Char) : Decidable (Closes cs) :=
  decidable_of_iff (blockAt? cs = some cs) (blockAt?_eq_some.trans (and_iff_right List.prefix_rfl))

theorem braceBlocks_append_of_unopened {before : List Char} (unopened : ∀ c ∈ before, c ≠ '\x7b') (rest : List Char) :
    braceBlocks (before ++ rest) = braceBlocks rest := by
  induction before with
  | nil => rfl
  | cons c before ih =>
    have none : blockAt? (c :: (before ++ rest)) = none := by simp [blockAt?, unopened c List.mem_cons_self]
    simp [braceBlocks, none, ih fun c held => unopened c (List.mem_cons_of_mem _ held)]

theorem braceBlocks_append_of_closes {before block : List Char} (rest : List Char)
    (unopened : ∀ c ∈ before, c ≠ '\x7b') (closes : Closes block) :
    ∃ later, braceBlocks (before ++ (block ++ rest)) = block :: later := by
  rw [braceBlocks_append_of_unopened unopened]
  cases block with
  | nil => exact absurd closes not_closes_nil
  | cons c cs =>
    have here : blockAt? (c :: (cs ++ rest)) = some (c :: cs) := blockAt?_eq_some.2 ⟨⟨rest, rfl⟩, closes⟩
    exact ⟨braceBlocks (cs ++ rest), by simp [braceBlocks, here]⟩

def Covers (height : Int) (cs : List Char) : Prop := ∀ before, before <+: cs → 0 ≤ height + surplus before

/-- The braces of some characters are in balance: they open all that they close and close all that they open. -/
structure Balanced (cs : List Char) : Prop where
  whole : surplus cs = 0
  covers : Covers 0 cs

theorem covers_nil {height : Int} : Covers height [] ↔ 0 ≤ height := by simp [Covers]

theorem covers_cons {height : Int} {c : Char} {cs : List Char} :
    Covers height (c :: cs) ↔ 0 ≤ height ∧ Covers (height + braceChange c) cs := by
  simp only [Covers, List.prefix_cons_iff, Int.add_assoc]
  constructor
  · intro covers
    exact ⟨by simpa using covers [] (.inl rfl), fun before leads => by
      simpa using covers (c :: before) (.inr ⟨before, rfl, leads⟩)⟩
  · intro holds before leads
    obtain ⟨start, covers⟩ := holds
    obtain rfl | ⟨rest, rfl, leads⟩ := leads
    · simpa using start
    · simpa using covers rest leads

theorem covers_append {height : Int} {first second : List Char} :
    Covers height (first ++ second) ↔ Covers height first ∧ Covers (height + surplus first) second := by
  induction first generalizing height with
  | nil =>
    have start : Covers height second → 0 ≤ height := fun covers => by simpa using covers [] List.nil_prefix
    simpa [covers_nil] using start
  | cons c first ih => simp only [List.cons_append, covers_cons, ih, surplus_cons, Int.add_assoc, and_assoc]

theorem Balanced.append {first second : List Char} (before : Balanced first) (after : Balanced second) :
    Balanced (first ++ second) where
  whole := by simp [before.whole, after.whole]
  covers := covers_append.2 ⟨before.covers, by simpa [before.whole] using after.covers⟩

def Bare (cs : List Char) : Prop := ∀ c ∈ cs, braceChange c = 0

instance (cs : List Char) : Decidable (Bare cs) := List.decidableBAll (fun c => braceChange c = 0) cs

theorem Bare.surplus {cs : List Char} (bare : Bare cs) : surplus cs = 0 := by
  induction cs with
  | nil => rfl
  | cons c cs ih => simp [bare c List.mem_cons_self, ih fun c held => bare c (List.mem_cons_of_mem _ held)]

theorem Bare.of_subset {first second : List Char} (bare : Bare second) (within : first ⊆ second) : Bare first :=
  fun c held => bare c (within held)

theorem Bare.covers {cs : List Char} (bare : Bare cs) {height : Int} (start : 0 ≤ height) : Covers height cs := by
  intro before leads
  simpa [(bare.of_subset leads.subset).surplus] using start

theorem Bare.balanced {cs : List Char} (bare : Bare cs) : Balanced cs := ⟨bare.surplus, bare.covers (Int.le_refl 0)⟩

theorem Balanced.closes {cs : List Char} (balanced : Balanced cs) : Closes ('\x7b' :: (cs ++ ['\x7d'])) := by
  have change : braceChange '\x7d' = -1 := rfl
  refine closes_cons.2 ⟨rfl, by simp [balanced.whole, change], fun before after split open_ => ?_⟩
  have leads : before <+: cs := by
    rw [← List.dropLast_concat_getLast open_, ← List.append_assoc] at split
    exact ⟨_, (List.append_inj_left' split rfl).symm⟩
  have above := balanced.covers before leads
  omega

theorem Closes.balanced {cs : List Char} (closes : Closes cs) : Balanced cs := by
  refine ⟨closes.whole, fun before leads => ?_⟩
  obtain ⟨after, rfl⟩ := leads
  rw [Int.zero_add]
  by_cases start : before = []
  · simp [start]
  · by_cases done : after = []
    · have whole := closes.whole
      rw [done, List.append_nil] at whole
      omega
    · exact Int.le_of_lt (closes.inside before after rfl start done)

@[simp]
theorem bare_nil : Bare [] := fun _ held => nomatch held

@[simp]
theorem bare_cons {c : Char} {cs : List Char} : Bare (c :: cs) ↔ braceChange c = 0 ∧ Bare cs := List.forall_mem_cons

@[simp]
theorem bare_append {first second : List Char} : Bare (first ++ second) ↔ Bare first ∧ Bare second :=
  List.forall_mem_append

@[simp]
theorem bare_replicate (n : Nat) : Bare (List.replicate n '0') := by
  intro c held
  rw [List.eq_of_mem_replicate held]
  rfl

@[simp]
theorem bare_natDigits (n : Nat) : Bare (Text.natDigits n) := by
  intro c held
  have digit := Text.isAsciiDigit_of_mem c held
  have opens : c ≠ '\x7b' := fun same => absurd (same ▸ digit) (by decide)
  have closes : c ≠ '\x7d' := fun same => absurd (same ▸ digit) (by decide)
  simp [braceChange, opens, closes]

theorem bare_intText (value : Int) : Bare (Text.intText value).toList := by
  cases value with
  | ofNat n => simp [Text.intText, Text.natText]
  | negSucc n => simp [Text.intText, Text.natText, braceChange]

theorem bare_significant (numeral : Decimal.Numeral) : Bare numeral.significant.1 := by
  refine (bare_natDigits numeral.digits).of_subset fun c held => ?_
  have dropped := List.mem_reverse.1 held
  exact List.mem_reverse.1 (List.dropWhile_subset _ dropped)

section

variable {digits : List Char} (bare : Bare digits) (place : Int)

include bare

theorem bare_positional : Bare (Decimal.positional digits place) := by
  have taken (n : Nat) : Bare (digits.take n) := bare.of_subset (List.take_subset _ _)
  have dropped (n : Nat) : Bare (digits.drop n) := bare.of_subset (List.drop_subset _ _)
  unfold Decimal.positional
  split
  · simp [bare, braceChange]
  · split
    · simp [taken, dropped, braceChange]
    · simp [bare, braceChange]

theorem bare_withExponent : Bare (Decimal.withExponent .wire digits place) := by
  have taken : Bare (digits.take 1) := bare.of_subset (List.take_subset _ _)
  have dropped : Bare (if digits.length ≤ 1 then [] else '.' :: digits.drop 1) := by
    split
    · exact bare_nil
    · exact bare_cons.2 ⟨rfl, bare.of_subset (List.drop_subset _ _)⟩
  have sign : braceChange (if place - 1 < 0 then '-' else '+') = 0 := by
    split
    all_goals rfl
  have mark : braceChange Decimal.Style.wire.exponentMark = 0 := rfl
  simp only [Decimal.withExponent, bare_append, bare_cons, taken, dropped, mark, sign, bare_replicate, bare_natDigits,
    and_self]

end

theorem bare_magnitude (value : Float) (mantissa : Nat) (exponent : Int) :
    Bare (Decimal.magnitude .wire value mantissa exponent) := by
  have digits := bare_significant (Decimal.shortestOf value mantissa exponent)
  unfold Decimal.magnitude
  dsimp only
  split
  · exact bare_positional digits _
  · exact bare_withExponent digits _

theorem bare_signed {negative : Bool} {cs : List Char} (bare : Bare cs) : Bare (Decimal.signed negative cs).toList := by
  cases negative with
  | false => simpa [Decimal.signed] using bare
  | true => simpa [Decimal.signed, braceChange] using bare

theorem bare_number (value : Number) : Bare (value.written .wire).toList := by
  cases value with
  | int value => exact bare_intText value
  | float value =>
    change Bare (Decimal.full .wire value).toList
    unfold Decimal.full
    split
    · exact (by decide : Bare Decimal.Style.wire.undefined.toList)
    · exact bare_signed (by decide)
    · exact bare_signed (by decide)
    · exact bare_signed (bare_magnitude _ _ _)

theorem writtenChar_braces (c : Char) :
    Json.writtenChar c = [c] ∨ (braceChange c = 0 ∧ Bare (Json.writtenChar c)) := by
  by_cases brace : c = '\x7b' ∨ c = '\x7d'
  · obtain rfl | rfl := brace
    all_goals exact .inl rfl
  · simp only [not_or] at brace
    have level : braceChange c = 0 := by simp [braceChange, brace]
    obtain ⟨e, stands, same⟩ | ⟨_, _, _, _, same⟩ | same := Json.writtenChar_cases c
    · have mark : braceChange e = 0 := by
        have opens : e ≠ '\x7b' := by
          rintro rfl
          cases stands
        have closes : e ≠ '\x7d' := by
          rintro rfl
          cases stands
        simp [braceChange, opens, closes]
      exact .inr ⟨level, by simp [same, mark]; rfl⟩
    · exact .inl same
    · refine .inr ⟨level, fun other held => ?_⟩
      rw [same] at held
      obtain ⟨unit, _, held⟩ := List.mem_flatMap.1 held
      obtain rfl | rfl | digit : other = '\\' ∨ other = 'u' ∨ other ∈ Text.hexDigits 4 unit := by
        simpa [Json.writtenUnit] using held
      · rfl
      · rfl
      · obtain ⟨value, small, rfl⟩ := mem_hexDigits digit
        have bare : ∀ value < 16, braceChange (Text.hexDigit value) = 0 := by decide
        exact bare value small

theorem surplus_flatMap_writtenChar (cs : List Char) : surplus (cs.flatMap Json.writtenChar) = surplus cs := by
  induction cs with
  | nil => rfl
  | cons c cs ih =>
    rw [List.flatMap_cons, surplus_append, surplus_cons, ih]
    obtain same | ⟨level, bare⟩ := writtenChar_braces c
    · simp [same]
    · rw [bare.surplus, level]

theorem covers_flatMap_writtenChar {height : Int} {cs : List Char} (covers : Covers height cs) :
    Covers height (cs.flatMap Json.writtenChar) := by
  -- The text and what is written of it are read together, from the same number of open braces on.
  induction cs generalizing height with
  | nil => exact covers
  | cons c cs ih =>
    obtain ⟨start, rest⟩ := covers_cons.1 covers
    rw [List.flatMap_cons, covers_append]
    obtain same | ⟨level, bare⟩ := writtenChar_braces c
    · rw [same]
      exact ⟨covers_cons.2 ⟨start, covers_nil.2 (by simpa using rest [] List.nil_prefix)⟩, by simpa using ih rest⟩
    · rw [bare.surplus, ← level]
      exact ⟨bare.covers start, ih rest⟩

theorem balanced_writtenText {text : String} (balanced : Balanced text.toList) : Balanced (Json.writtenText text) := by
  have quote : Balanced ['"'] := Bare.balanced (by simp [braceChange])
  have inner : Balanced (text.toList.flatMap Json.writtenChar) :=
    ⟨by rw [surplus_flatMap_writtenChar, balanced.whole], covers_flatMap_writtenChar balanced.covers⟩
  exact (quote.append inner).append quote

end Extraction

namespace Json

mutual

def textsIn : Json → List String
  | .text value => [value]
  | .list items => textsInItems items
  | .object fields => textsInFields fields
  | _ => []

def textsInItems : List Json → List String
  | [] => []
  | item :: rest => textsIn item ++ textsInItems rest

def textsInFields : List (String × Json) → List String
  | [] => []
  | (key, value) :: rest => key :: textsIn value ++ textsInFields rest

end

end Json

namespace Extraction

mutual

theorem balanced_written : ∀ value : Json, (∀ text ∈ value.textsIn, Balanced text.toList) → Balanced (Json.written value)
  | .null => fun _ => Bare.balanced (by decide)
  | .bool true => fun _ => Bare.balanced (by decide)
  | .bool false => fun _ => Bare.balanced (by decide)
  | .number value => fun _ => (bare_number value).balanced
  | .text value => fun balanced => balanced_writtenText (balanced value (by simp [Json.textsIn]))
  | .list [] => fun _ => Bare.balanced (by simp [Json.written, braceChange])
  | .list (item :: rest) => by
    intro balanced
    simp only [Json.textsIn, Json.textsInItems, List.forall_mem_append] at balanced
    have opens : Balanced ['['] := Bare.balanced (by simp [braceChange])
    exact (opens.append (balanced_written item balanced.1)).append (balanced_writtenItems rest balanced.2)
  | .object fields => fun balanced => (closes_written fields (by simpa [Json.textsIn] using balanced)).balanced

/-- An object is written as a block if the braces in each of its texts are in balance. -/
theorem closes_written : ∀ fields : Fields, (∀ text ∈ Json.textsInFields fields, Balanced text.toList) →
    Closes (Json.written (.object fields))
  | [] => fun _ => (Bare.balanced bare_nil).closes
  | (key, value) :: rest => by
    intro balanced
    simp only [Json.textsInFields, List.cons_append, List.forall_mem_cons, List.forall_mem_append] at balanced
    have colon : Balanced [':', ' '] := Bare.balanced (by simp [braceChange])
    obtain ⟨inner, others, level⟩ := balanced_writtenFields rest balanced.2.2
    have fields := (((balanced_writtenText balanced.1).append colon).append (balanced_written value balanced.2.1)).append
      level
    have whole : Json.written (.object ((key, value) :: rest)) =
        '\x7b' :: (Json.writtenText key ++ [':', ' '] ++ Json.written value ++ inner ++ ['\x7d']) := by
      simp [Json.written, others]
    rw [whole]
    exact fields.closes

theorem balanced_writtenItems : ∀ items : List Json, (∀ text ∈ Json.textsInItems items, Balanced text.toList) →
    Balanced (Json.writtenItems items)
  | [] => fun _ => Bare.balanced (by simp [Json.writtenItems, braceChange])
  | item :: rest => by
    intro balanced
    simp only [Json.textsInItems, List.forall_mem_append] at balanced
    have comma : Balanced [',', ' '] := Bare.balanced (by simp [braceChange])
    exact (comma.append (balanced_written item balanced.1)).append (balanced_writtenItems rest balanced.2)

theorem balanced_writtenFields : ∀ fields : List (String × Json),
    (∀ text ∈ Json.textsInFields fields, Balanced text.toList) →
      ∃ inner, Json.writtenFields fields = inner ++ ['\x7d'] ∧ Balanced inner
  | [] => fun _ => ⟨[], rfl, Bare.balanced bare_nil⟩
  | (key, value) :: rest => by
    intro balanced
    simp only [Json.textsInFields, List.cons_append, List.forall_mem_cons, List.forall_mem_append] at balanced
    have comma : Balanced [',', ' '] := Bare.balanced (by simp [braceChange])
    have colon : Balanced [':', ' '] := Bare.balanced (by simp [braceChange])
    obtain ⟨inner, others, level⟩ := balanced_writtenFields rest balanced.2.2
    exact ⟨_, by simp [Json.writtenFields, others], (((comma.append (balanced_writtenText balanced.1)).append colon).append
      (balanced_written value balanced.2.1)).append level⟩

end

end Extraction

end Parley

