import Parley.Proofs.Json.Blanks

namespace Parley

namespace Text

theorem asciiDigit?_digitChar {digit : Nat} (small : digit < 10) : asciiDigit? digit.digitChar = some digit := by
  have all : ∀ digit < 10, asciiDigit? digit.digitChar = some digit := by decide
  exact all digit small

theorem ofDigits_natDigits (n : Nat) : ofDigits ((natDigits n).filterMap asciiDigit?) = n := by
  induction n using Nat.strongRecOn with
  | ind n ih =>
    unfold natDigits at ih ⊢
    by_cases small : n < 10
    · rw [Nat.toDigits_of_lt_base small]
      simp [ofDigits, asciiDigit?_digitChar small]
    · have last : n % 10 < 10 := Nat.mod_lt _ (by decide)
      have earlier := ih (n / 10) (by omega)
      rw [Nat.toDigits_of_base_le (by decide) (by omega), List.filterMap_append]
      simp only [List.filterMap_cons, List.filterMap_nil, asciiDigit?_digitChar last]
      unfold ofDigits at earlier ⊢
      rw [List.foldl_append, earlier]
      simp only [List.foldl_cons, List.foldl_nil]
      omega

theorem isAsciiDigit_of_mem {n : Nat} : ∀ c ∈ natDigits n, isAsciiDigit c = true := by
  intro c held
  have digit : c.isDigit = true := Nat.isDigit_of_mem_toDigits (by decide) (by decide) held
  simp only [Char.isDigit, Bool.and_eq_true, decide_eq_true_eq] at digit
  have within : '0' ≤ c ∧ c ≤ '9' := digit
  simp [isAsciiDigit, asciiDigit?, within]

theorem natDigits_head {n : Nat} (positive : 0 < n) : ∃ first rest, natDigits n = first :: rest ∧ first ≠ '0' := by
  induction n using Nat.strongRecOn with
  | ind n ih =>
    unfold natDigits at ih ⊢
    by_cases small : n < 10
    · refine ⟨n.digitChar, [], Nat.toDigits_of_lt_base small, ?_⟩
      simp only [ne_eq, Nat.digitChar_eq_zero]
      omega
    · obtain ⟨first, rest, digits, nonzero⟩ := ih (n / 10) (by omega) (by omega)
      refine ⟨first, rest ++ [(n % 10).digitChar], ?_, nonzero⟩
      rw [Nat.toDigits_of_base_le (by decide) (by omega), digits]
      rfl

end Text

namespace Json

theorem halts_cons {c : Char} {rest : List Char} (ends : c ∈ [',', ']', '\x7d']) : Halts (c :: rest) := by
  intro _ _ same
  obtain ⟨rfl, -⟩ := List.cons.inj same
  simp only [List.mem_cons, List.not_mem_nil, or_false] at ends
  obtain rfl | rfl | rfl := ends
  all_goals decide

section

variable {rest : List Char} (halts : Halts rest)

include halts

theorem leadingDigits_natDigits (n : Nat) : leadingDigits (Text.natDigits n ++ rest) = Text.natDigits n := by
  have ends : rest.takeWhile Text.isAsciiDigit = [] := leadingDigits_of_halts halts
  rw [leadingDigits, List.takeWhile_append_of_pos Text.isAsciiDigit_of_mem, ends, List.append_nil]

theorem afterDigits_natDigits (n : Nat) : afterDigits (Text.natDigits n ++ rest) = rest := by
  have ends : rest.dropWhile Text.isAsciiDigit = rest := afterDigits_of_halts halts
  rw [afterDigits, List.dropWhile_append_of_pos Text.isAsciiDigit_of_mem, ends]

theorem scanWhole_natDigits (n : Nat) : scanWhole (Text.natDigits n ++ rest) = some (Text.natDigits n, rest) := by
  obtain rfl | positive := Nat.eq_zero_or_pos n
  · rfl
  · have digits := leadingDigits_natDigits halts n
    have after := afterDigits_natDigits halts n
    obtain ⟨first, others, same, nonzero⟩ := Text.natDigits_head positive
    rw [same, List.cons_append] at digits after ⊢
    simp [scanWhole, nonzero, digits, after]

theorem scanUnsigned_natDigits (negative : Bool) (n : Nat) :
    scanUnsigned negative (Text.natDigits n ++ rest) = some (.int (if negative then -(n : Int) else n), rest) := by
  simp [scanUnsigned, scanWhole_natDigits halts, scanFraction_of_halts halts, scanExponent_of_halts halts,
    Text.ofDigits_natDigits]

end

theorem scanToken_digit {c : Char} {rest : List Char} (digit : Text.isAsciiDigit c = true) :
    scanToken (c :: rest) = (scanUnsigned false (c :: rest)).map (fun found => (numberToken found.1, found.2)) ∧
      scanToken ('-' :: c :: rest) =
        (scanUnsigned true (c :: rest)).map fun found => (numberToken found.1, found.2) := by
  have apart (ink : Char) (other : Text.isAsciiDigit ink = false) : ink ≠ c := by
    rintro rfl
    cases digit.symm.trans other
  have unmarked : c ∉ marks := by
    intro held
    have others : ∀ mark ∈ marks, Text.isAsciiDigit mark = false := by
      simp [marks, Text.isAsciiDigit, Text.asciiDigit?]
    exact apart c (others c held) rfl
  have word : scanWord (c :: rest) = none := by
    simp [scanWord, words, Text.afterList?, apart 'n' (by decide), apart 't' (by decide), apart 'f' (by decide),
      apart 'N' (by decide), apart 'I' (by decide), apart '-' (by decide)]
  have signed : scanWord ('-' :: c :: rest) = none := by
    simp [scanWord, words, Text.afterList?, apart 'I' (by decide)]
  constructor
  · rw [scanToken_of_unmarked rest unmarked, word]
    simp [scanNumber, (apart '-' (by decide)).symm]
  · rw [scanToken_of_unmarked (c :: rest) (by decide), signed]
    rfl

theorem tokens_integer (value : Int) {rest : List Char} (halts : Halts rest) :
    tokens ((Text.intText value).toList ++ rest) = numberToken (.int value) :: tokens rest := by
  have started (n : Nat) : ∃ first others, Text.natDigits n = first :: others ∧ Text.isAsciiDigit first = true := by
    cases digits : Text.natDigits n with
    | nil => exact absurd digits Nat.toDigits_ne_nil
    | cons first others => exact ⟨first, others, rfl, Text.isAsciiDigit_of_mem first (digits ▸ List.mem_cons_self)⟩
  have solid {c : Char} (digit : Text.isAsciiDigit c = true) : isGap c = false := by
    refine Bool.eq_false_iff.2 fun gap => ?_
    simp only [isGap, Bool.or_eq_true, decide_eq_true_eq] at gap
    obtain ((rfl | rfl) | rfl) | rfl := gap
    all_goals cases digit
  cases value with
  | ofNat n =>
    obtain ⟨first, others, digits, digit⟩ := started n
    have scans := scanUnsigned_natDigits halts false n
    have text : (Text.intText (.ofNat n)).toList = Text.natDigits n := String.toList_ofList
    rw [text]
    rw [digits, List.cons_append] at scans ⊢
    refine tokens_of_scanToken (solid digit) ?_
    rw [(scanToken_digit digit).1, scans]
    rfl
  | negSucc n =>
    obtain ⟨first, others, digits, digit⟩ := started (n + 1)
    have scans := scanUnsigned_natDigits halts true (n + 1)
    have text : (Text.intText (.negSucc n)).toList = '-' :: Text.natDigits (n + 1) := by
      simp [Text.intText, Text.natText]
    rw [text, List.cons_append]
    rw [digits, List.cons_append] at scans ⊢
    refine tokens_of_scanToken (by decide) ?_
    rw [(scanToken_digit digit).2, scans]
    rfl

theorem tokens_intText {value : Int} {rest : List Char} (writable : Text.isWritable value = true) (halts : Halts rest) :
    tokens ((Text.intText value).toList ++ rest) = .atom (.number (.int value)) :: tokens rest := by
  rw [tokens_integer value halts, numberToken, if_pos writable]

mutual

/-- Whether a value is read back as it is written, with so many containers within one another: it has no floats, no
integers of too many digits, and no key twice in an object. -/
def rereads (room : Nat) : Json → Bool
  | .number (.int value) => Text.isWritable value
  | .number (.float _) => false
  | .list items => 0 < room && rereadsItems (room - 1) items
  | .object fields => 0 < room && rereadsFields (room - 1) fields && decide (fields.map Prod.fst).Nodup
  | _ => true

def rereadsItems (room : Nat) : List Json → Bool
  | [] => true
  | item :: rest => rereads room item && rereadsItems room rest

def rereadsFields (room : Nat) : List (String × Json) → Bool
  | [] => true
  | (_, value) :: rest => rereads room value && rereadsFields room rest

end

mutual

def tokensOf : Json → List Token
  | .list [] => [.openList, .closeList]
  | .list (item :: rest) => .openList :: tokensOf item ++ tokensOfItems rest
  | .object [] => [.openObject, .closeObject]
  | .object ((key, value) :: rest) => .openObject :: .atom (.text key) :: .colon :: tokensOf value ++ tokensOfFields rest
  | value => [.atom value]

def tokensOfItems : List Json → List Token
  | [] => [.closeList]
  | item :: rest => .comma :: tokensOf item ++ tokensOfItems rest

def tokensOfFields : List (String × Json) → List Token
  | [] => [.closeObject]
  | (key, value) :: rest => .comma :: .atom (.text key) :: .colon :: tokensOf value ++ tokensOfFields rest

end

section

variable (rest : List Char)

theorem tokens_gap : tokens (' ' :: rest) = tokens rest := by rw [tokens, if_pos (by decide)]

theorem tokens_openList : tokens ('[' :: rest) = .openList :: tokens rest := tokens_of_scanToken (by decide) rfl

theorem tokens_closeList : tokens (']' :: rest) = .closeList :: tokens rest := tokens_of_scanToken (by decide) rfl

theorem tokens_openObject : tokens ('\x7b' :: rest) = .openObject :: tokens rest :=
  tokens_of_scanToken (by decide) rfl

theorem tokens_closeObject : tokens ('\x7d' :: rest) = .closeObject :: tokens rest :=
  tokens_of_scanToken (by decide) rfl

theorem tokens_comma : tokens (',' :: rest) = .comma :: tokens rest := tokens_of_scanToken (by decide) rfl

theorem tokens_colon : tokens (':' :: rest) = .colon :: tokens rest := tokens_of_scanToken (by decide) rfl

end

theorem halts_writtenItems (items : List Json) (rest : List Char) : Halts (writtenItems items ++ rest) := by
  cases items with
  | nil => exact halts_cons (by decide)
  | cons => exact halts_cons (by decide)

theorem halts_writtenFields (fields : List (String × Json)) (rest : List Char) :
    Halts (writtenFields fields ++ rest) := by
  cases fields with
  | nil => exact halts_cons (by decide)
  | cons => exact halts_cons (by decide)

mutual

theorem tokens_written {room : Nat} : ∀ (value : Json) (rest : List Char), rereads room value = true → Halts rest →
    tokens (written value ++ rest) = tokensOf value ++ tokens rest
  | .null, rest => fun _ _ => tokens_of_scanToken (by decide) rfl
  | .bool true, rest => fun _ _ => tokens_of_scanToken (by decide) rfl
  | .bool false, rest => fun _ _ => tokens_of_scanToken (by decide) rfl
  | .number (.int n), rest => by
    intro sound halts
    rw [rereads] at sound
    exact tokens_intText sound halts
  | .number (.float _), _ => fun sound => nomatch sound
  | .text spelled, rest => fun _ _ => tokens_writtenText spelled rest
  | .list [], rest => fun _ _ => (tokens_openList _).trans (congrArg (.openList :: ·) (tokens_closeList rest))
  | .list (item :: items), rest => by
    intro sound _
    simp only [rereads, rereadsItems, Bool.and_eq_true] at sound
    have first := tokens_written item _ sound.2.1 (halts_writtenItems items rest)
    have others := tokens_writtenItems items rest sound.2.2
    simp only [written, tokensOf, List.cons_append, List.append_assoc, tokens_openList, first, others]
  | .object [], rest => fun _ _ => (tokens_openObject _).trans (congrArg (.openObject :: ·) (tokens_closeObject rest))
  | .object ((key, value) :: fields), rest => by
    intro sound _
    simp only [rereads, rereadsFields, Bool.and_eq_true] at sound
    have first := tokens_written value _ sound.1.2.1 (halts_writtenFields fields rest)
    have others := tokens_writtenFields fields rest sound.1.2.2
    simp only [written, tokensOf, List.cons_append, List.append_assoc, tokens_openObject, tokens_writtenText,
      tokens_colon, tokens_gap, first, others]

theorem tokens_writtenItems {room : Nat} : ∀ (items : List Json) (rest : List Char), rereadsItems room items = true →
    tokens (writtenItems items ++ rest) = tokensOfItems items ++ tokens rest
  | [], rest => fun _ => tokens_closeList rest
  | item :: items, rest => by
    intro sound
    simp only [rereadsItems, Bool.and_eq_true] at sound
    have first := tokens_written item _ sound.1 (halts_writtenItems items rest)
    have others := tokens_writtenItems items rest sound.2
    simp only [writtenItems, tokensOfItems, List.cons_append, List.append_assoc, tokens_comma, tokens_gap, first,
      others]

theorem tokens_writtenFields {room : Nat} : ∀ (fields : List (String × Json)) (rest : List Char),
    rereadsFields room fields = true → tokens (writtenFields fields ++ rest) = tokensOfFields fields ++ tokens rest
  | [], rest => fun _ => tokens_closeObject rest
  | (key, value) :: fields, rest => by
    intro sound
    simp only [rereadsFields, Bool.and_eq_true] at sound
    have first := tokens_written value _ sound.1 (halts_writtenFields fields rest)
    have others := tokens_writtenFields fields rest sound.2
    simp only [writtenFields, tokensOfFields, List.cons_append, List.append_assoc, tokens_comma, tokens_writtenText,
      tokens_colon, tokens_gap, first, others]

end

/-- Where a list's first item is due, an item is read as where any value is. -/
theorem run_firstItem_cons {token : Token} (starts : token ≠ .closeList) (frames : List Frame) (more : List Token) :
    run (.firstItem, frames) (token :: more) = run (.value, .list [] :: frames) (token :: more) := by
  have step : advance (.firstItem, frames) token = advance (.value, .list [] :: frames) token := by
    cases token with
    | closeList => exact absurd rfl starts
    | _ => rfl
  rw [run, run, step]

theorem run_firstItem (item : Json) (frames : List Frame) (more : List Token) :
    run (.firstItem, frames) (tokensOf item ++ more) = run (.value, .list [] :: frames) (tokensOf item ++ more) := by
  have starts : ∃ token rest, tokensOf item = token :: rest ∧ token ≠ .closeList := by
    cases item with
    | list items => cases items with
      | nil => exact ⟨_, _, rfl, nofun⟩
      | cons => exact ⟨.openList, _, by rw [tokensOf]; rfl, nofun⟩
    | object fields => cases fields with
      | nil => exact ⟨_, _, rfl, nofun⟩
      | cons => exact ⟨.openObject, _, by rw [tokensOf]; rfl, nofun⟩
    | _ => exact ⟨_, _, rfl, nofun⟩
  obtain ⟨token, rest, same, starts⟩ := starts
  rw [same, List.cons_append, run_firstItem_cons starts]

theorem openIn_of_room {frames : List Frame} {room : Nat} (stage : Stage) (spare : 0 < room)
    (fits : frames.length + room ≤ depthLimit) : openIn frames stage = .ok (stage, frames) :=
  if_pos (by omega)

mutual

theorem run_tokensOf : ∀ (value : Json) (room : Nat) (frames : List Frame) (more : List Token),
    rereads room value = true → frames.length + room ≤ depthLimit →
      run (.value, frames) (tokensOf value ++ more) = run (.done value, frames) more
  | .null, _, _, _ => fun _ _ => rfl
  | .bool _, _, _, _ => fun _ _ => rfl
  | .number _, _, _, _ => fun _ _ => rfl
  | .text _, _, _, _ => fun _ _ => rfl
  | .list [], room, frames, more => by
    intro sound fits
    simp only [rereads, Bool.and_eq_true, decide_eq_true_eq] at sound
    have opens : advance (.value, frames) .openList = .ok (.firstItem, frames) := openIn_of_room _ sound.1 fits
    simp only [tokensOf, List.cons_append, List.nil_append, run, opens, Except.bind]
    rfl
  | .list (item :: items), room, frames, more => by
    intro sound fits
    simp only [rereads, rereadsItems, Bool.and_eq_true, decide_eq_true_eq] at sound
    have opens : advance (.value, frames) .openList = .ok (.firstItem, frames) := openIn_of_room _ sound.1 fits
    have inner : (Frame.list [] :: frames).length + (room - 1) ≤ depthLimit := by simp only [List.length_cons]; omega
    have first := run_tokensOf item (room - 1) (.list [] :: frames) (tokensOfItems items ++ more) sound.2.1 inner
    have others := run_tokensOfItems items (room - 1) frames [] item more sound.2.2 inner
    simp only [tokensOf, List.cons_append, List.append_assoc, run, opens, Except.bind, run_firstItem, first, others]
    rfl
  | .object [], room, frames, more => by
    intro sound fits
    simp only [rereads, Bool.and_eq_true, decide_eq_true_eq] at sound
    have opens : advance (.value, frames) .openObject = .ok (.firstKey, frames) := openIn_of_room _ sound.1.1 fits
    simp only [tokensOf, List.cons_append, List.nil_append, run, opens, Except.bind]
    rfl
  | .object ((key, value) :: fields), room, frames, more => by
    intro sound fits
    simp only [rereads, rereadsFields, Bool.and_eq_true, decide_eq_true_eq] at sound
    have opens : advance (.value, frames) .openObject = .ok (.firstKey, frames) := openIn_of_room _ sound.1.1 fits
    have inner : (Frame.object [] key :: frames).length + (room - 1) ≤ depthLimit := by simp only [List.length_cons]; omega
    have first := run_tokensOf value (room - 1) (.object [] key :: frames) (tokensOfFields fields ++ more) sound.1.2.1
      inner
    have others := run_tokensOfFields fields (room - 1) frames [] key value more sound.1.2.2 sound.2 inner
    simp only [tokensOf, List.cons_append, List.append_assoc, run, opens, Except.bind]
    change run (.value, .object [] key :: frames) _ = _
    rw [first, others]
    rfl

theorem run_tokensOfItems : ∀ (items : List Json) (room : Nat) (frames : List Frame) (before : List Json) (value : Json)
    (more : List Token), rereadsItems room items = true → (Frame.list before :: frames).length + room ≤ depthLimit →
      run (.done value, .list before :: frames) (tokensOfItems items ++ more) =
        run (.done (.list (before.reverse ++ value :: items)), frames) more
  | [], _, frames, before, value, more => by
    intro _ _
    have closed : before.reverse ++ [value] = (value :: before).reverse := by rw [List.reverse_cons]
    rw [closed]
    rfl
  | item :: items, room, frames, before, value, more => by
    intro sound fits
    simp only [rereadsItems, Bool.and_eq_true] at sound
    have first := run_tokensOf item room (.list (value :: before) :: frames) (tokensOfItems items ++ more) sound.1 fits
    have others := run_tokensOfItems items room frames (value :: before) item more sound.2 fits
    simp only [tokensOfItems, List.cons_append, List.append_assoc, run]
    change run (.value, .list (value :: before) :: frames) _ = _
    rw [first, others, List.reverse_cons, List.append_assoc]
    rfl

theorem run_tokensOfFields : ∀ (fields : List (String × Json)) (room : Nat) (frames : List Frame) (before : Fields)
    (key : String) (value : Json) (more : List Token), rereadsFields room fields = true →
      ((before ++ (key, value) :: fields).map Prod.fst).Nodup →
      (Frame.object before key :: frames).length + room ≤ depthLimit →
      run (.done value, .object before key :: frames) (tokensOfFields fields ++ more) =
        run (.done (.object (before ++ (key, value) :: fields)), frames) more
  | [], _, frames, before, key, value, more => by
    intro _ distinct _
    have absent : key ∉ before.names := by
      intro held
      rw [List.map_append, List.nodup_append] at distinct
      exact distinct.2.2 key held key List.mem_cons_self rfl
    rw [← Table.put_of_not_mem value absent]
    rfl
  | (next, item) :: fields, room, frames, before, key, value, more => by
    intro sound distinct fits
    simp only [rereadsFields, Bool.and_eq_true] at sound
    have absent : key ∉ before.names := by
      intro held
      rw [List.map_append, List.nodup_append] at distinct
      exact distinct.2.2 key held key List.mem_cons_self rfl
    have whole : before ++ (key, value) :: (next, item) :: fields = before.put key value ++ (next, item) :: fields := by
      rw [Table.put_of_not_mem value absent, List.append_assoc]
      rfl
    rw [whole] at distinct ⊢
    have first := run_tokensOf item room (.object (before.put key value) next :: frames) (tokensOfFields fields ++ more)
      sound.1 fits
    have others := run_tokensOfFields fields room frames (before.put key value) next item more sound.2 distinct fits
    simp only [tokensOfFields, List.cons_append, List.append_assoc, run]
    change run (.value, .object (before.put key value) next :: frames) _ = _
    rw [first, others]

end

/-- The text of a value is read back as the value. -/
theorem readList_written {value : Json} (sound : rereads depthLimit value = true) :
    readList (written value) = .ok value := by
  have text := tokens_written value [] sound halts_nil
  have reads := run_tokensOf value depthLimit [] [] sound (Nat.le_of_eq (Nat.zero_add _))
  rw [List.append_nil, tokens, List.append_nil] at text
  rw [List.append_nil] at reads
  rw [readList, text, reads]
  rfl

end Json

end Parley

