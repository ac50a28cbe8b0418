import Parley.Proofs.Extraction.Braces
import Parley.Proofs.Extraction.TextCalls

namespace Parley.Extraction

def holdsArguments : Json → Bool
  | .object _ => true
  | .list _ => true
  | _ => false

def callFields (name : String) (arguments : Json) : Fields := [("name", .text name), ("arguments", arguments)]

/-- A text that describes a call as JSON, in any way of writing it. -/
def Encodes (text : String) (name : String) (arguments : Json) : Prop :=
  Json.readList text.toList = .ok (.object (callFields name arguments))

theorem describedCall?_callFields {name : String} (named : name ≠ "") (arguments : Json) :
    describedCall? (.object (callFields name arguments)) = some (name, arguments) := by
  have filled : name.isEmpty = false := by simpa using named
  have key : nameKey? (callFields name arguments) = some "name" := by
    simp [nameKey?, nameKeys, callFields, Json.field, namesCall, filled]
  rw [describedCall?, key]
  rfl

theorem argumentsOf_of_holds {arguments : Json} (holds : holdsArguments arguments = true) (spec : Option Tool.Spec) :
    argumentsOf spec arguments = .ok (argumentsOfValue spec arguments) := by
  cases arguments with
  | object | list => rfl
  | _ => cases holds

theorem payload?_of_readList {block : List Char} {fields : Fields} (read : Json.readList block = .ok (.object fields)) :
    payload? block = .ok (some fields) := by
  have first : (readings block).findSomeM? Json.decoded? = .ok (some (.object fields)) := by
    simp only [readings, List.findSomeM?_cons, Json.decoded?_eq_some read]
    rfl
  rw [payload?, first]
  rfl

theorem fragment_of_jsonHit? {limit : Int} {table : List Tool.Spec} {block : List Char} {hit : Hit}
    (found : jsonHit? limit table block = .ok (some hit)) : hit.fragment = block := by
  obtain ⟨written, _, rest⟩ := bind_eq_ok.1 found
  cases written with
  | none => cases rest
  | some called =>
    obtain ⟨name, arguments⟩ := called
    cases named : specNamed? table name with
    | none =>
      simp only [named] at rest
      cases rest
    | some spec =>
      simp only [named] at rest
      obtain ⟨values, _, rest⟩ := bind_eq_ok.1 rest
      cases rest
      rfl

theorem fragment_mem_of_jsonHits {limit : Int} {table : List Tool.Spec} {blocks : List (List Char)} {hits : List Hit}
    (found : jsonHits limit table blocks = .ok hits) : ∀ hit ∈ hits, hit.fragment ∈ blocks := by
  induction blocks generalizing hits with
  | nil =>
    cases found
    intro hit held
    cases held
  | cons block rest ih =>
    have later {hits : List Hit} (found : jsonHits limit table rest = .ok hits) :
        ∀ hit ∈ hits, hit.fragment ∈ block :: rest := fun hit held => List.mem_cons_of_mem _ (ih found hit held)
    cases read : jsonHit? limit table block with
    | error failure =>
      simp only [jsonHits, read] at found
      cases found
    | ok first =>
      cases first with
      | none =>
        simp only [jsonHits, read] at found
        exact later found
      | some hit =>
        have here : hit.fragment ∈ block :: rest := fragment_of_jsonHit? read ▸ List.mem_cons_self
        simp only [jsonHits, read] at found
        split at found
        next =>
          obtain rfl := Except.ok.inj found
          simpa using here
        next =>
          cases others : jsonHits limit table rest with
          | error failure =>
            rw [others] at found
            cases found
          | ok hits =>
            rw [others] at found
            obtain rfl := Except.ok.inj found
            exact List.forall_mem_cons.2 ⟨here, later others⟩

theorem trimList_between_blanks (cs : List Char) :
    ∃ before after, cs = before ++ (Text.trimList cs ++ after) ∧ ∀ c ∈ before, Text.isBlank c = true := by
  refine ⟨cs.takeWhile Text.isBlank, ((cs.dropWhile Text.isBlank).reverse.takeWhile Text.isBlank).reverse, ?_,
    fun _ held => List.mem_takeWhile_imp held⟩
  rw [Text.trimList, Text.trimBy, ← List.reverse_append, List.takeWhile_append_dropWhile, List.reverse_reverse,
    List.takeWhile_append_dropWhile]

section

variable {limit : Int} {specs : List Tool.Spec} {spec : Tool.Spec} {arguments : Json} {text : String}
  (distinct : (specs.map Tool.Spec.name).Nodup) (member : spec ∈ specs) (holds : holdsArguments arguments = true)

include distinct member holds

/-- What a search makes of the vendor's own call. -/
theorem search_structured {reading : Reading} {others : List (Json × Json)}
    (calls : reading.calls = (.text spec.name, arguments) :: others) :
    (search limit reading specs).1 =
      .ok ⟨some ⟨spec.name, argumentsOfValue (some spec) arguments, .structured⟩, none⟩ := by
  simp only [search, calls, named, offered_of_nodup distinct, specNamed?_of_mem distinct member,
    argumentsOf_of_holds holds]
  rfl

variable (filled : spec.name ≠ "")
  (accepted : spec.accepts (argumentsOfValue (some spec) arguments).length = true)
  (short : isTooLong limit text.toList = false) (encodes : Encodes text spec.name arguments)

include filled accepted short encodes

theorem jsonHit?_of_encodes :
    jsonHit? limit specs (Text.trimList text.toList) = .ok (some ⟨Text.trimList text.toList,
      .ok ⟨spec.name, argumentsOfValue (some spec) arguments, .json⟩⟩) := by
  obtain ⟨before, after, split, _⟩ := trimList_between_blanks text.toList
  have shorter : isTooLong limit (Text.trimList text.toList) = false := by
    have length := congrArg List.length split
    simp only [List.length_append] at length
    simp only [isTooLong, Bool.and_eq_false_iff, decide_eq_false_iff_not, ne_eq, Decidable.not_not] at short ⊢
    omega
  have writes := writtenCall?_eq_ok.2 ⟨shorter, _, payload?_of_readList (Json.readList_trimList encodes),
    describedCall?_callFields filled arguments⟩
  rw [jsonHit?, writes]
  simp only [bind, Except.bind, specNamed?_of_mem distinct member, argumentsOf_of_holds holds,
    counted_of_accepts .json accepted]
  rfl

/-- The search takes the text for one block exactly if its braces close at its end, and is done with it then. -/
theorem jsonHits_of_encodes :
    jsonHits limit (offered specs) (braceBlocks text.toList) = .ok [⟨Text.trimList text.toList,
      .ok ⟨spec.name, argumentsOfValue (some spec) arguments, .json⟩⟩] ↔ Closes (Text.trimList text.toList) := by
  constructor
  · intro found
    exact (mem_braceBlocks.1 (fragment_mem_of_jsonHits found _ List.mem_cons_self)).2
  · intro closes
    obtain ⟨before, after, split, blank⟩ := trimList_between_blanks text.toList
    -- No blank is a brace, so the first block starts where the blanks end.
    have bare : ∀ c ∈ before, c ≠ '\x7b' := by
      intro c held same
      have brace : Text.isBlank '\x7b' = false := by decide
      exact Bool.false_ne_true (brace.symm.trans (same ▸ blank c held))
    obtain ⟨later, blocks⟩ := braceBlocks_append_of_closes after bare closes
    have hit := jsonHit?_of_encodes distinct member holds filled accepted short encodes
    rw [← split] at blocks
    calc jsonHits limit (offered specs) (braceBlocks text.toList)
        = jsonHits limit specs (Text.trimList text.toList :: later) := by rw [offered_of_nodup distinct, blocks]
      _ = .ok [⟨Text.trimList text.toList,
          .ok ⟨spec.name, argumentsOfValue (some spec) arguments, .json⟩⟩] := by rw [jsonHits, hit]; rfl

theorem search_of_encodes (closes : Closes (Text.trimList text.toList)) {reading : Reading}
    (silent : reading.calls = []) (same : reading.text = text) :
    search limit reading specs =
      (.ok ⟨some ⟨spec.name, argumentsOfValue (some spec) arguments, .json⟩, none⟩, []) := by
  subst same
  have hits := (jsonHits_of_encodes distinct member holds filled accepted short encodes).2 closes
  have offering : (offered specs).isEmpty = false := by
    rw [offered_of_nodup distinct]
    exact List.isEmpty_eq_false_iff_exists_mem.2 ⟨spec, member⟩
  exact search_of_jsonHits silent offering hits rfl

end

def callJson (name : String) (arguments : Json) : String := Json.render (.object (callFields name arguments))

theorem toList_callJson (name : String) (arguments : Json) :
    (callJson name arguments).toList = Json.written (.object (callFields name arguments)) := String.toList_ofList

theorem encodes_callJson {name : String} {arguments : Json}
    (sound : Json.rereads Json.depthLimit (.object (callFields name arguments)) = true) :
    Encodes (callJson name arguments) name arguments := by
  rw [Encodes, toList_callJson]
  exact Json.readList_written sound

/-- A call of an offered function as JSON text: the search reads the text as the call exactly if the braces of the text
close for the first time at its end, and then comes to the call with the arguments that the vendor's own call gives. -/
theorem encoded_call_agrees {limit : Int} {specs : List Tool.Spec} (spec : Tool.Spec) (arguments : Json) (text : String)
    (distinct : (specs.map Tool.Spec.name).Nodup) (member : spec ∈ specs) (filled : spec.name ≠ "")
    (holds : holdsArguments arguments = true)
    (accepted : spec.accepts (argumentsOfValue (some spec) arguments).length = true)
    (encodes : Encodes text spec.name arguments) (short : isTooLong limit text.toList = false) :
    (∀ (reading : Reading) others, reading.calls = (.text spec.name, arguments) :: others →
      (search limit reading specs).1 =
        .ok ⟨some ⟨spec.name, argumentsOfValue (some spec) arguments, .structured⟩, none⟩) ∧
    (jsonHits limit (offered specs) (braceBlocks text.toList) = .ok [⟨Text.trimList text.toList,
      .ok ⟨spec.name, argumentsOfValue (some spec) arguments, .json⟩⟩] ↔ Closes (Text.trimList text.toList)) ∧
    (Closes (Text.trimList text.toList) → ∀ reading : Reading, reading.calls = [] → reading.text = text →
      search limit reading specs =
        (.ok ⟨some ⟨spec.name, argumentsOfValue (some spec) arguments, .json⟩, none⟩, [])) :=
  ⟨fun _ _ calls => search_structured distinct member holds calls,
    jsonHits_of_encodes distinct member holds filled accepted short encodes,
    fun closes _ silent same => search_of_encodes distinct member holds filled accepted short encodes closes silent same⟩

def textOnly (text : String) : Reading := ⟨"gpt", false, [], text⟩

theorem braced_echo_found :
    search defaultLimit (textOnly (callJson "echo" (.object [("text", "\x7bhi\x7d")]))) [Tool.echo.spec] =
      (.ok ⟨some ⟨"echo", ["\x7bhi\x7d"], .json⟩, none⟩, []) :=
  (encoded_call_agrees Tool.echo.spec (.object [("text", "\x7bhi\x7d")]) _ (by decide) (by decide) (by decide) rfl
    (by decide) (encodes_callJson (by decide +kernel)) (by decide)).2.2 (by decide) (textOnly _) rfl rfl

/-- The search for blocks ends at a brace within an argument: the call is lost, or, where single quotes are taken for
double ones, it is made with another argument. -/
theorem unbalanced_echo_differs :
    (∀ arguments ∈ [Json.object [("text", "\x7d")], .list ["']\x7d"]],
      Encodes (callJson "echo" arguments) "echo" arguments ∧ holdsArguments arguments = true ∧
      Tool.echo.spec.accepts (argumentsOfValue (some Tool.echo.spec) arguments).length = true ∧
      isTooLong defaultLimit (callJson "echo" arguments).toList = false) ∧
    (search defaultLimit ⟨"gpt", false, [("echo", .object [("text", "\x7d")])], ""⟩ [Tool.echo.spec]).1.toOption =
      some ⟨some ⟨"echo", ["\x7d"], .structured⟩, none⟩ ∧
    (search defaultLimit (textOnly (callJson "echo" (.object [("text", "\x7d")]))) [Tool.echo.spec]).1.toOption =
      some ⟨none, none⟩ ∧
    (search defaultLimit ⟨"gpt", false, [("echo", .list ["']\x7d"])], ""⟩ [Tool.echo.spec]).1.toOption =
      some ⟨some ⟨"echo", ["']\x7d"], .structured⟩, none⟩ ∧
    (search defaultLimit (textOnly (callJson "echo" (.list ["']\x7d"]))) [Tool.echo.spec]).1.toOption =
      some ⟨some ⟨"echo", [""], .json⟩, none⟩ := by
  refine ⟨?_, by decide +kernel⟩
  intro arguments held
  obtain rfl | rfl : arguments = .object [("text", "\x7d")] ∨ arguments = .list ["']\x7d"] := by simpa using held
  all_goals exact ⟨encodes_callJson (by decide +kernel), by decide⟩

end Parley.Extraction

