import Parley.Proofs.Extraction.Placement
import Parley.Proofs.Extraction.Scanning
import Parley.Proofs.Scenario

namespace Parley.Extraction

def isName (name : String) : Bool := !name.isEmpty && name.toList.all isNameChar

def isArgumentName (name : String) : Bool := isName name && name.toList.head?.any isNameStart

def callText (name : String) (positional : List String) (keywords : List (String × String)) : String :=
  name ++ "(" ++ ", ".intercalate (positional.map Json.renderText ++
    keywords.map fun field => field.1 ++ "=" ++ Json.renderText field.2) ++ ")"

theorem callText_nil (call : Tool.Call) : callText call.name call.arguments [] = call.text := by
  simp [callText, Tool.Call.text]

def keywordPart (field : String × String) : List Char := field.1.toList ++ '=' :: Json.writtenText field.2

theorem toList_callText (name : String) (positional : List String) (keywords : List (String × String)) :
    (callText name positional keywords).toList =
      name.toList ++ '(' :: (joined (positional.map Json.writtenText ++ keywords.map keywordPart) ++ [')']) := by
  simp [callText, joined, Json.renderText, String.toList_intercalate, Function.comp_def]
  rfl

theorem scans_name {cs : List Char} (spelled : ∀ c ∈ cs, isNameChar c = true) : Passed cs ∧ Kept cs := by
  induction cs with
  | nil => exact ⟨passed_nil, fun _ _ => rfl⟩
  | cons c cs ih =>
    have held := spelled c List.mem_cons_self
    have never (other : Char) (barred : isNameChar other = false) : c ≠ other := ne_of_isNameChar held barred
    have unquoted : isQuote c = false := by simp [isQuote, never '"' rfl, never '\'' rfl]
    have level : depthChange c = 0 := by
      simp [depthChange, never '(' rfl, never '[' rfl, never '\x7b' rfl, never ')' rfl, never ']' rfl, never '\x7d' rfl]
    obtain ⟨passed, kept⟩ := ih fun c later => spelled c (List.mem_cons_of_mem _ later)
    exact ⟨(passed_singleton unquoted (never '(' rfl) (never ')' rfl)).append passed,
      (kept_singleton unquoted level (never ',' rfl)).append kept⟩

theorem isName_spelled {name : String} (named : isName name = true) : ∀ c ∈ name.toList, isNameChar c = true := by
  simp only [isName, Bool.and_eq_true, List.all_eq_true] at named
  exact named.2

theorem isArgumentName_cases {name : String} (named : isArgumentName name = true) :
    ∃ first rest, name.toList = first :: rest ∧ isNameStart first = true ∧ ∀ c ∈ first :: rest, isNameChar c = true := by
  simp only [isArgumentName, Bool.and_eq_true] at named
  have spelled := isName_spelled named.1
  cases chars : name.toList with
  | nil =>
    rw [chars] at named
    cases named.2
  | cons first rest =>
    rw [chars] at named spelled
    exact ⟨first, rest, rfl, by simpa using named.2, spelled⟩

theorem part_keyword {field : String × String} (named : isArgumentName field.1 = true) : Part (keywordPart field) := by
  obtain ⟨first, rest, chars, _, spelled⟩ := isArgumentName_cases named
  obtain ⟨passed, kept⟩ := scans_name spelled
  have value := part_writtenText field.2
  have equals : Passed ['='] := passed_singleton rfl (by decide) (by decide)
  have whole : keywordPart field = (first :: rest) ++ (['='] ++ Json.writtenText field.2) := by
    rw [keywordPart, chars]
    rfl
  rw [whole]
  refine ⟨passed.append (equals.append value.passed), kept.append (Kept.append ?_ value.kept), by simp, ?_⟩
  · exact kept_singleton rfl rfl (by decide)
  · have ends : (first :: rest) ++ (['='] ++ Json.writtenText field.2) =
        first :: ((rest ++ '=' :: '"' :: field.2.toList.flatMap Json.writtenChar) ++ ['"']) := by
      simp [Json.writtenText]
    rw [ends]
    exact Text.trimList_between _ (not_isBlank_of_isNameChar (spelled first List.mem_cons_self)) (by decide)

theorem keyword?_keywordPart {field : String × String} (named : isArgumentName field.1 = true) :
    keyword? (keywordPart field) = some (field.1, Json.writtenText field.2) := by
  obtain ⟨first, rest, chars, starts, spelled⟩ := isArgumentName_cases named
  have stops : isNameChar '=' = false := rfl
  have key : (keywordPart field).takeWhile isNameChar = field.1.toList := by
    rw [keywordPart, chars, List.takeWhile_append_of_pos spelled, List.takeWhile_cons_of_neg (by simp [stops]),
      List.append_nil]
  have after : (keywordPart field).dropWhile isNameChar = '=' :: Json.writtenText field.2 := by
    rw [keywordPart, chars, List.dropWhile_append_of_pos spelled, List.dropWhile_cons_of_neg (by simp [stops])]
  have value : (Json.writtenText field.2).dropWhile Text.isBlank = Json.writtenText field.2 := by
    rw [writtenText_eq, List.dropWhile_cons_of_neg (by decide)]
  have whole : keywordPart field = first :: (rest ++ '=' :: Json.writtenText field.2) := by
    rw [keywordPart, chars]
    rfl
  unfold keyword?
  rw [whole]
  dsimp only
  rw [← whole, key, after, List.dropWhile_cons_of_neg (by decide)]
  simp [starts, value]

theorem keyword?_writtenText (text : String) : keyword? (Json.writtenText text) = none := rfl

theorem unquote_writtenText (text : String) : unquote (Json.writtenText text) = text.toList := by
  have trimmed := (part_writtenText text).trimmed
  have bare : unwrapped? (Json.writtenText text) = none := rfl
  have body : quotedBody? (Json.writtenText text) = some ('"', text.toList.flatMap Json.writtenChar) := by
    simp [writtenText_eq, quotedBody?, isQuote]
  simp only [unquote, trimmed, bare, Option.map_none, Option.getD_none, stripQuotes, body, if_true, Json.parseList?,
    Json.readList_writtenText]
  rfl

theorem read_positional (spec : Tool.Spec) (values positional : List String) (rest : List (List Char)) :
    Written.read spec ⟨positional, []⟩ (values.map Json.writtenText ++ rest) =
      Written.read spec ⟨positional ++ values, []⟩ rest := by
  induction values generalizing positional with
  | nil => simp
  | cons value values ih =>
    have added : Written.add spec ⟨positional, []⟩ (Json.writtenText value) = .ok ⟨positional ++ [value], []⟩ := by
      simp [Written.add, keyword?_writtenText, unquote_writtenText]
    rw [List.map_cons, List.cons_append, Written.read, added]
    refine (ih (positional ++ [value])).trans ?_
    rw [List.append_assoc]
    rfl

theorem read_keywords {spec : Tool.Spec} (positional : List String) {keywords : Table String} (table : Table String)
    (named : ∀ field ∈ keywords, isArgumentName field.1 = true) (declared : ∀ field ∈ keywords, field.1 ∈ spec.arguments) :
    Written.read spec ⟨positional, table⟩ (keywords.map keywordPart) =
      .ok ⟨positional, keywords.foldl (fun table entry => table.put entry.1 entry.2) table⟩ := by
  induction keywords generalizing table with
  | nil => rfl
  | cons field rest ih =>
    have added : Written.add spec ⟨positional, table⟩ (keywordPart field) =
        .ok ⟨positional, table.put field.1 field.2⟩ := by
      have known : field.1 ∈ spec.arguments := declared field List.mem_cons_self
      simp [Written.add, keyword?_keywordPart (named field List.mem_cons_self), unquote_writtenText, known]
    rw [List.map_cons, Written.read, added]
    exact ih _ (fun field held => named field (List.mem_cons_of_mem _ held))
      (fun field held => declared field (List.mem_cons_of_mem _ held))

theorem keywordRun_eq {keywords : Table String} {names values : List String} (short : values.length ≤ names.length)
    (given : ∀ field ∈ names.zip values, keywords.lookup field.1 = some field.2)
    (left : ∀ name ∈ names.drop values.length, keywords.lookup name = none) : keywordRun keywords names = values := by
  induction names generalizing values with
  | nil =>
    obtain rfl : values = [] := by simpa using short
    rfl
  | cons name names ih =>
    cases values with
    | nil => simp [keywordRun, left name (by simp)]
    | cons value values =>
      have later := ih (by simpa using short) (fun field held => given field (by simp [held]))
        (fun name held => left name (by simpa using held))
      simp [keywordRun, given (name, value) (by simp), later]

theorem names_zip {names : List String} {values : List String} (short : values.length ≤ names.length) :
    (names.zip values).map Prod.fst = names.take values.length := by
  have whole : names.zip values = (names.take values.length).zip values := by
    rw [List.zip_eq_zip_take_min, Nat.min_eq_right short, List.take_length]
  rw [whole, List.map_fst_zip (by simp [short])]

/-- What the values by keyword are, whatever their order. -/
structure Fills (keywords : Table String) (names values : List String) (count : Nat) : Prop where
  distinct : keywords.names.Nodup
  given : ∀ field ∈ (names.drop count).zip (values.drop count), keywords.lookup field.1 = some field.2
  left : ∀ name ∈ names.drop values.length, keywords.lookup name = none

theorem fills_of_perm {keywords : Table String} {names values : List String} {count : Nat} (distinct : names.Nodup)
    (short : values.length ≤ names.length) (permuted : keywords.Perm ((names.zip values).drop count)) :
    Fills keywords names values count := by
  have same : keywords.names.Perm ((names.take values.length).drop count) := by
    have mapped := permuted.map Prod.fst
    rwa [List.map_drop, names_zip short] at mapped
  have once : keywords.names.Nodup :=
    same.nodup_iff.2 (distinct.sublist ((List.drop_sublist _ _).trans (List.take_sublist _ _)))
  refine ⟨once, fun field held => ?_, fun name held => Table.lookup_of_not_mem fun there => ?_⟩
  · refine Table.lookup_of_mem once (permuted.mem_iff.2 ?_)
    rw [List.zip, List.drop_zipWith]
    exact held
  · have before : name ∈ names.take values.length := List.mem_of_mem_drop (same.mem_iff.1 there)
    rw [← List.take_append_drop values.length names, List.nodup_append] at distinct
    exact distinct.2.2 name before name held rfl

theorem accepts_bounds {spec : Tool.Spec} {count : Nat} (accepted : spec.accepts count = true) :
    spec.minArity ≤ count ∧ count ≤ spec.arguments.length := by
  simpa [Tool.Spec.accepts, Tool.Spec.arity] using accepted

theorem values_eq {spec : Tool.Spec} {values : List String} {count : Nat} {keywords : Table String}
    (accepted : spec.accepts values.length = true) (within : count ≤ values.length)
    (fills : Fills keywords spec.arguments values count)
    (silent : keywords = [] → count = values.length) :
    Written.values spec ⟨values.take count, keywords⟩ = .ok values := by
  obtain ⟨least, greatest⟩ := accepts_bounds accepted
  cases empty : keywords with
  | nil =>
    rw [silent empty, List.take_length]
    rfl
  | cons field rest =>
    rw [← empty]
    have filled : keywords.isEmpty = false := by rw [empty]; rfl
    have length : (values.take count).length = count := by simp [within]
    have run : keywordRun keywords (spec.arguments.drop count) = values.drop count := by
      refine keywordRun_eq (by simp; omega) fills.given fun name held => fills.left name ?_
      rw [List.drop_drop, List.length_drop] at held
      rwa [show count + (values.length - count) = values.length by omega] at held
    have complete : (spec.minArity - values.length).toNat = 0 := by omega
    have unfilled : (spec.arguments.drop values.length).filter (fun name => (keywords.lookup name).isSome) = [] := by
      refine List.filter_eq_nil_iff.2 fun name held => ?_
      simp [fills.left name held]
    simp only [Written.values, filled, Bool.false_eq_true, if_false, length, run, List.take_append_drop, complete,
      List.take_zero, List.filter_nil, unfilled]

/-- The arguments of a call, however it is written, in the order of its function. -/
theorem boundArguments_joined {spec : Tool.Spec} {values : List String} {count : Nat} {keywords : Table String}
    (distinct : spec.arguments.Nodup) (named : ∀ name ∈ spec.arguments, isArgumentName name = true)
    (accepted : spec.accepts values.length = true) (within : count ≤ values.length)
    (permuted : keywords.Perm ((spec.arguments.zip values).drop count)) :
    (∀ part ∈ (values.take count).map Json.writtenText ++ keywords.map keywordPart, Part part) ∧
    boundArguments spec (joined ((values.take count).map Json.writtenText ++ keywords.map keywordPart)) = .ok values := by
  have fills := fills_of_perm distinct (accepts_bounds accepted).2 permuted
  have declared : ∀ field ∈ keywords, field.1 ∈ spec.arguments := fun field held =>
    (List.of_mem_zip (List.mem_of_mem_drop (permuted.mem_iff.1 held))).1
  have parts : ∀ part ∈ (values.take count).map Json.writtenText ++ keywords.map keywordPart, Part part := by
    intro part held
    obtain held | held := List.mem_append.1 held
    · obtain ⟨value, _, rfl⟩ := List.mem_map.1 held
      exact part_writtenText value
    · obtain ⟨field, given, rfl⟩ := List.mem_map.1 held
      exact part_keyword (named field.1 (declared field given))
  have silent : keywords = [] → count = values.length := by
    rintro rfl
    have none := permuted.symm.eq_nil
    have greatest := (accepts_bounds accepted).2
    rw [List.drop_eq_nil_iff, List.length_zip] at none
    omega
  have read : Written.read spec {} ((values.take count).map Json.writtenText ++ keywords.map keywordPart) =
      .ok ⟨values.take count, keywords⟩ := by
    refine (read_positional spec (values.take count) [] _).trans ?_
    rw [List.nil_append, read_keywords _ _ (fun field held => named field.1 (declared field held)) declared,
      Table.foldl_put_of_nodup (by simpa using fills.distinct), List.nil_append]
  refine ⟨parts, ?_⟩
  rw [boundArguments, splitArguments_joined parts, read]
  exact values_eq accepted within fills silent

theorem mentionOf?_self (name rest : List Char) : mentionOf? (name ++ '(' :: rest) name = some ⟨name, [], rest⟩ := by
  have opens : Text.isBlank '(' = false := rfl
  rw [mentionOf?, Text.afterList?_append]
  simp [opens]

/-- Of all names, only the one that stands before the parenthesis is mentioned there. -/
theorem eq_of_mentionOf? {name other rest : List Char} {mention : Mention}
    (spelled : ∀ c ∈ name, isNameChar c = true) (others : ∀ c ∈ other, isNameChar c = true)
    (found : mentionOf? (name ++ '(' :: rest) other = some mention) : other = name := by
  cases after : Text.afterList? other (name ++ '(' :: rest) with
  | none => simp [mentionOf?, after] at found
  | some tail =>
    obtain ⟨more, rfl, split⟩ | ⟨more, rfl, rfl⟩ := List.append_eq_append_iff.1 (Text.eq_append_of_afterList? after)
    · cases more with
      | nil => exact List.append_nil _
      | cons c more =>
        obtain rfl := (List.cons.inj split).1
        exact absurd (others '(' (by simp)) (by decide)
    · cases more with
      | nil => exact (List.append_nil _).symm
      | cons c more =>
        -- the name goes on where the other one ends
        have held := spelled c (by simp)
        have opens : c ≠ '(' := ne_of_isNameChar held rfl
        rw [mentionOf?, after] at found
        simp [not_isBlank_of_isNameChar held, opens] at found

theorem findSome?_eq_some_of_forall {α β : Type} {find : α → Option β} {items : List α} {value : β} {item : α}
    (held : item ∈ items) (found : find item = some value)
    (only : ∀ other ∈ items, ∀ result, find other = some result → result = value) : items.findSome? find = some value := by
  cases first : items.findSome? find with
  | none => cases (List.findSome?_eq_none_iff.1 first item held).symm.trans found
  | some result =>
    obtain ⟨other, there, same⟩ := List.exists_of_findSome?_eq_some first
    rw [only other there result same]

theorem mentions_callText {names : List String} {name : String} (named : ∀ other ∈ names, isName other = true)
    (held : name ∈ names) (rest : List Char) :
    ∃ later, mentions names (name.toList ++ '(' :: rest) = ⟨name.toList, [], rest⟩ :: later := by
  have chars : ∀ other ∈ (longestFirst names).map String.toList, ∀ c ∈ other, isNameChar c = true := by
    intro other there
    obtain ⟨text, member, rfl⟩ := List.mem_map.1 there
    exact isName_spelled (named text (List.mem_mergeSort.1 member))
  have member : name.toList ∈ (longestFirst names).map String.toList :=
    List.mem_map_of_mem (List.mem_mergeSort.2 held)
  have finds : ((longestFirst names).map String.toList).findSome? (mentionOf? (name.toList ++ '(' :: rest)) =
      some ⟨name.toList, [], rest⟩ := by
    refine findSome?_eq_some_of_forall member (mentionOf?_self _ _) fun other there mention found => ?_
    obtain rfl := eq_of_mentionOf? (chars _ member) (chars other there) found
    exact Option.some.inj (found.symm.trans (mentionOf?_self _ _))
  unfold mentions
  cases whole : name.toList ++ '(' :: rest with
  | nil => simp at whole
  | cons c cs =>
    rw [whole] at finds
    exact ⟨_, by rw [mentionsFrom]; simp only [mayPrecede, if_true, finds]; rfl⟩

theorem specNamed?_of_mem {specs : List Tool.Spec} {spec : Tool.Spec} (distinct : (specs.map Tool.Spec.name).Nodup)
    (member : spec ∈ specs) : specNamed? specs spec.name = some spec := by
  induction specs with
  | nil => cases member
  | cons first rest ih =>
    obtain ⟨absent, others⟩ := List.nodup_cons.1 distinct
    obtain rfl | later := List.mem_cons.1 member
    · simp [specNamed?]
    · have differ : first.name ≠ spec.name := by
        intro same
        exact absent (List.mem_map.2 ⟨spec, later, same.symm⟩)
      simp only [specNamed?, List.find?_cons, differ, decide_false]
      exact ih others later

theorem counted_of_accepts {spec : Tool.Spec} {values : List String} (source : Tool.Source)
    (accepted : spec.accepts values.length = true) : counted spec source values = .ok ⟨spec.name, values, source⟩ := by
  simp only [counted, countMisfit?, accepted, if_true]

/-- The hit that a text starts with if a call is written there. -/
theorem textHits_callText {specs : List Tool.Spec} {spec : Tool.Spec} {values : List String} {count : Nat}
    {keywords : List (String × String)} (suffix : String)
    (distinct : (specs.map Tool.Spec.name).Nodup) (names : ∀ other ∈ specs, isName other.name = true)
    (member : spec ∈ specs) (once : spec.arguments.Nodup)
    (named : ∀ name ∈ spec.arguments, isArgumentName name = true)
    (accepted : spec.accepts values.length = true) (within : count ≤ values.length)
    (permuted : keywords.Perm ((spec.arguments.zip values).drop count)) :
    ∃ later, textHits specs (callText spec.name (values.take count) keywords ++ suffix).toList =
      ⟨(callText spec.name (values.take count) keywords).toList, .ok ⟨spec.name, values, .text⟩⟩ :: later := by
  obtain ⟨parts, bound⟩ := boundArguments_joined once named accepted within permuted
  have closes := enclosed?_joined parts suffix.toList
  have text := toList_callText spec.name (values.take count) keywords
  generalize joined ((values.take count).map Json.writtenText ++ keywords.map keywordPart) = inner at bound closes text
  have whole : (callText spec.name (values.take count) keywords ++ suffix).toList =
      spec.name.toList ++ '(' :: (inner ++ ')' :: suffix.toList) := by
    simp [text]
  have nameable : ∀ other ∈ specs.map Tool.Spec.name, isName other = true := by
    intro other there
    obtain ⟨spec, held, rfl⟩ := List.mem_map.1 there
    exact names spec held
  obtain ⟨later, found⟩ := mentions_callText nameable (List.mem_map_of_mem member) (inner ++ ')' :: suffix.toList)
  have call : Mention.call spec ⟨spec.name.toList, [], inner ++ ')' :: suffix.toList⟩ =
      (spec.name.toList ++ '(' :: (inner ++ [')']), .ok values) := by
    simp [Mention.call, closes, Mention.head, bound]
  rw [textHits, whole, found, text, List.filterMap_cons_some (b := ⟨spec.name.toList ++ '(' :: (inner ++ [')']),
    .ok ⟨spec.name, values, .text⟩⟩)]
  · exact ⟨_, rfl⟩
  · rw [String.ofList_toList, specNamed?_of_mem distinct member, Option.map_some, call]
    exact congrArg (fun call => some (Hit.mk _ call)) (counted_of_accepts .text accepted)

end Parley.Extraction

