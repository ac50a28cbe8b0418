import Parley.Proofs.Extraction.JsonCalls
import Parley.Proofs.Extraction.Settling
import Parley.Proofs.Json.Overflow

namespace Parley.Extraction

/-- None of these blocks is a call that fits, as far as they can be read. -/
def NoneFits (limit : Int) (table : List Tool.Spec) (blocks : List (List Char)) : Prop :=
  ∀ hit ∈ blocks.filterMap (blockHit? limit table), hit.call? = none

theorem settle_of_noneFits {limit : Int} {table : List Tool.Spec} {text : String} {hit : Hit} {later : List Hit}
    {call : Tool.Call} (none : NoneFits limit table (braceBlocks text.toList))
    (hits : textHits table text.toList = hit :: later) (fits : hit.call = .ok call) :
    settle (hitsOf limit table text) = ⟨some call, Option.none⟩ := by
  have first : (hitsOf limit table text).findSome? Hit.call? = some call := by
    rw [hitsOf, List.findSome?_append, List.findSome?_eq_none_iff.2 none, hits, List.findSome?_cons,
      Hit.call?_eq_some.2 fits]
    rfl
  rw [settle, first]

/-- A text that starts with a call: the call is the first mention found, with its arguments in order and nothing against
it. Where no call written as JSON fits, it is what a search comes to exactly if no block in the text is in the way; the
first that is makes the search fail. -/
theorem written_call_found {specs : List Tool.Spec} (spec : Tool.Spec) (values : List String) (count : Nat)
    {keywords : List (String × String)} (suffix : String)
    (distinct : (specs.map Tool.Spec.name).Nodup) (names : ∀ other ∈ specs, isName other.name = true)
    (member : spec ∈ specs) (once : spec.arguments.Nodup)
    (named : ∀ name ∈ spec.arguments, isArgumentName name = true)
    (accepted : spec.accepts values.length = true) (within : count ≤ values.length)
    (permuted : keywords.Perm ((spec.arguments.zip values).drop count)) :
    (textHits specs (callText spec.name (values.take count) keywords ++ suffix).toList).head? =
      some ⟨(callText spec.name (values.take count) keywords).toList, .ok ⟨spec.name, values, .text⟩⟩ ∧
    (count = values.length →
      callText spec.name (values.take count) keywords = (⟨spec.name, values, .text⟩ : Tool.Call).text) ∧
    ∀ (limit : Int) (reading : Reading), reading.calls = [] →
      reading.text = callText spec.name (values.take count) keywords ++ suffix →
      NoneFits limit specs (braceBlocks reading.text.toList) →
        ((search limit reading specs).1 = .ok ⟨some ⟨spec.name, values, .text⟩, none⟩ ↔
          ∀ failure, ¬Unsearchable limit reading specs failure) ∧
        ∀ failure, (search limit reading specs).1 = .error failure ↔ Unsearchable limit reading specs failure := by
  obtain ⟨later, found⟩ := textHits_callText suffix distinct names member once named accepted within permuted
  refine ⟨by rw [found]; rfl, ?_, ?_⟩
  · rintro rfl
    obtain rfl : keywords = [] := by
      have none : (spec.arguments.zip values).drop values.length = [] := by
        rw [List.drop_eq_nil_iff, List.length_zip]
        omega
      rw [none] at permuted
      exact permuted.eq_nil
    rw [List.take_length]
    exact callText_nil ⟨spec.name, values, .text⟩
  · intro limit reading silent same none
    have offers : offered specs = specs := offered_of_nodup distinct
    have fails (failure : Failure) :
        (search limit reading specs).1 = .error failure ↔ Unsearchable limit reading specs failure := by
      rw [search_silent_eq_error silent, offers]
    refine ⟨⟨fun searched failure unsearchable => ?_, fun unfailing => ?_⟩, fails⟩
    · cases searched.symm.trans ((fails failure).2 unsearchable)
    · have filled : reading.text ≠ "" := by
        rw [same]
        simp [callText]
      have hits : textHits specs reading.text.toList = _ := same ▸ found
      have settles : Settles (hitsOf limit specs reading.text) _ := settles_iff.2 (settle_of_noneFits none hits rfl)
      exact (search_eq_ok silent (offers.symm ▸ List.ne_nil_of_mem member) filled).2
        ⟨offers.symm ▸ unfailing, offers.symm ▸ settles⟩

def joinedText : String := callText "joined" ["1, 2"] [("tail", "joined(3)"), ("body", "say \"hi\"")] ++ " and so on"

theorem joined_call_found :
    (textHits [Tool.echo.spec, Tool.joined.spec] joinedText.toList).head? =
      some ⟨(callText "joined" ["1, 2"] [("tail", "joined(3)"), ("body", "say \"hi\"")]).toList,
        .ok ⟨"joined", ["1, 2", "say \"hi\"", "joined(3)"], .text⟩⟩ ∧
    (search defaultLimit (textOnly joinedText) [Tool.echo.spec, Tool.joined.spec]).1 =
      .ok ⟨some ⟨"joined", ["1, 2", "say \"hi\"", "joined(3)"], .text⟩, none⟩ := by
  obtain ⟨first, _, searches⟩ := @written_call_found [Tool.echo.spec, Tool.joined.spec] Tool.joined.spec
    ["1, 2", "say \"hi\"", "joined(3)"] 1 [("tail", "joined(3)"), ("body", "say \"hi\"")] " and so on" (by decide)
    (by decide) (by decide) (by decide) (by decide) (by decide) (by decide) (by decide)
  have blocks : braceBlocks joinedText.toList = [] := by decide +kernel
  have none : NoneFits defaultLimit [Tool.echo.spec, Tool.joined.spec] (braceBlocks joinedText.toList) := by
    rw [blocks]
    exact List.forall_mem_nil _
  refine ⟨first, (searches defaultLimit (textOnly joinedText) rfl rfl none).1.2 fun failure unsearchable => ?_⟩
  cases unsearchable with
  | listed calls | structured calls | overlong calls => cases calls
  | @unreadable before _ _ _ _ _ found =>
    cases before with
    | nil => cases blocks.symm.trans found
    | cons => cases blocks.symm.trans found

/-- A block with an integer of more digits than are read cannot be read, unless it is passed over for its length. -/
theorem unreadable_of_overflows {limit : Int} {table : List Tool.Spec} {value : Json} {digits : Nat}
    (overflows : Json.Overflows Json.depthLimit value digits) (short : isTooLong limit (Json.written value) = false) :
    Unreadable limit table (Json.written value) (.tooManyDigits (some digits)) := by
  have read := Json.readList_of_overflows overflows
  refine ⟨short, .inl ⟨[], _, _, rfl, by simp, _, read, fun same => ?_, rfl⟩⟩
  cases same

def endlessBlock : List Char := Json.written (.object [("a", .number (.int Text.endless))])

/-- A call as text, and then a block with an integer of too many digits. -/
def hiddenEcho : String := callText "echo" ["hi"] [] ++ (" " ++ String.ofList endlessBlock)

theorem endlessBlock_eq :
    endlessBlock = '\x7b' :: ("\"a\": ".toList ++ Text.natDigits Text.endless ++ ['\x7d']) := by
  simp [endlessBlock, Json.written, Json.writtenFields, Json.writtenText, Json.writtenChar, Number.written, Text.intText,
    Text.natText]

theorem not_isTooLong_endlessBlock : isTooLong defaultLimit endlessBlock = false := by
  have length : endlessBlock.length = (Text.natDigits Text.endless).length + 7 := by simp [endlessBlock_eq]
  have within : Text.digitLimit + 8 ≤ 8000 := by decide
  have digits := Text.length_endless
  simp only [isTooLong, Bool.and_eq_false_iff, defaultLimit]
  exact .inr (decide_eq_false (by omega))

theorem unreadable_endlessBlock (table : List Tool.Spec) :
    ∃ digits, Unreadable defaultLimit table endlessBlock (.tooManyDigits (some digits)) := by
  have overflows : Json.Overflows Json.depthLimit (.object [("a", .number (.int Text.endless))]) _ :=
    @Json.Overflows.object (Json.depthLimit - 1) _ [] [] "a" _ rfl (.integer Text.not_isWritable_endless)
  exact ⟨_, unreadable_of_overflows overflows not_isTooLong_endlessBlock⟩

theorem closes_endlessBlock : Closes endlessBlock := by
  refine closes_written _ ?_
  simp only [Json.textsInFields, Json.textsIn, List.append_nil, List.forall_mem_singleton]
  exact Bare.balanced (by decide)

theorem braceBlocks_hiddenEcho : braceBlocks hiddenEcho.toList = [endlessBlock] := by
  have before : ∀ c ∈ (callText "echo" ["hi"] []).toList ++ [' '], c ≠ '\x7b' :=
    List.forall_mem_ne'.2 (by decide +kernel)
  have inside : ∀ c ∈ "\"a\": ".toList ++ Text.natDigits Text.endless ++ ['\x7d'], c ≠ '\x7b' := by
    rintro c held rfl
    have among : '\x7b' ∈ Text.natDigits Text.endless := by simpa using held
    exact absurd (Text.isAsciiDigit_of_mem _ among) (by decide)
  have whole : blockAt? endlessBlock = some endlessBlock :=
    blockAt?_eq_some.2 ⟨List.prefix_rfl, closes_endlessBlock⟩
  have split : hiddenEcho.toList = ((callText "echo" ["hi"] []).toList ++ [' ']) ++ endlessBlock := by simp [hiddenEcho]
  have rest := braceBlocks_append_of_unopened inside []
  rw [List.append_nil] at rest
  rw [split, braceBlocks_append_of_unopened before]
  rw [endlessBlock_eq] at whole ⊢
  rw [braceBlocks, whole, rest]
  rfl

theorem search_hiddenEcho :
    ∃ text, (search defaultLimit (textOnly hiddenEcho) [Tool.echo.spec]).1 = .error (.foreign .invalidValue text) := by
  have blocks : braceBlocks hiddenEcho.toList = [] ++ endlessBlock :: [] := braceBlocks_hiddenEcho
  obtain ⟨digits, unreadable⟩ := unreadable_endlessBlock [Tool.echo.spec]
  exact ⟨_, (search_silent_eq_error rfl).2 (.unreadable rfl rfl blocks (List.forall_mem_nil _) unreadable)⟩

/-- A block that cannot be read keeps the search from the call, although no other one is there. -/
theorem written_echo_lost :
    isName Tool.echo.spec.name = true ∧ Tool.echo.spec.arguments.Nodup ∧
      (∀ name ∈ Tool.echo.spec.arguments, isArgumentName name = true) ∧ Tool.echo.spec.accepts 1 = true ∧
      hiddenEcho = callText Tool.echo.spec.name ["hi"] [] ++ (" " ++ String.ofList endlessBlock) ∧
      NoneFits defaultLimit [Tool.echo.spec] (braceBlocks hiddenEcho.toList) ∧
      (search defaultLimit (textOnly hiddenEcho) [Tool.echo.spec]).1 ≠ .ok ⟨some ⟨"echo", ["hi"], .text⟩, none⟩ := by
  obtain ⟨digits, unreadable⟩ := unreadable_endlessBlock [Tool.echo.spec]
  obtain ⟨text, failed⟩ := search_hiddenEcho
  have unread : blockHit? defaultLimit [Tool.echo.spec] endlessBlock = none := by
    rw [blockHit?, jsonHit?_eq_error.2 unreadable]
    rfl
  refine ⟨by decide, by decide, by decide, by decide, rfl, ?_, fun found => ?_⟩
  · rw [NoneFits, braceBlocks_hiddenEcho, List.filterMap_cons_none unread]
    exact List.forall_mem_nil _
  · cases failed.symm.trans found

end Parley.Extraction

