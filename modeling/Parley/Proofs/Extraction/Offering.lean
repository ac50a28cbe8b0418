import Parley.Proofs.Extraction.Settling

namespace Parley.Extraction

/-- A mention at the start of a text, of a name that no longer one is mentioned beside. -/
structure Longest (names : List (List Char)) (cs : List Char) (mention : Mention) : Prop where
  among : mention.name ∈ names
  starts : mentionOf? cs mention.name = some mention
  longest : ∀ other ∈ names, (mentionOf? cs other).isSome = true → other.length ≤ mention.name.length

section

variable {names others : List (List Char)} {cs name : List Char} {mention : Mention}

theorem eq_take_of_mentionOf? (starts : mentionOf? cs name = some mention) : name = cs.take name.length := by
  cases after : Text.afterList? name cs with
  | none =>
    rw [mentionOf?, after] at starts
    cases starts
  | some rest => rw [Text.eq_append_of_afterList? after, List.take_left]

theorem Longest.unique {other : Mention} (first : Longest names cs mention) (second : Longest names cs other) :
    mention = other := by
  -- Both are as much of the text as they are long, and neither is the longer one.
  have shorter := first.longest other.name second.among (by rw [second.starts]; rfl)
  have longer := second.longest mention.name first.among (by rw [first.starts]; rfl)
  have same : mention.name = other.name := by
    rw [eq_take_of_mentionOf? first.starts, eq_take_of_mentionOf? second.starts, Nat.le_antisymm longer shorter]
  have starts := first.starts
  rw [same, second.starts] at starts
  exact (Option.some.inj starts).symm

theorem Longest.congr (same : ∀ name, name ∈ names ↔ name ∈ others) :
    Longest names cs mention ↔ Longest others cs mention :=
  ⟨fun held => ⟨(same _).1 held.among, held.starts, fun other there => held.longest other ((same _).2 there)⟩,
    fun held => ⟨(same _).2 held.among, held.starts, fun other there => held.longest other ((same _).1 there)⟩⟩

/-- Of names that get no longer, the first that is mentioned is the longest. -/
theorem findSome?_mentionOf? (sorted : names.Pairwise fun earlier later => later.length ≤ earlier.length) :
    names.findSome? (mentionOf? cs) = some mention ↔ Longest names cs mention := by
  have longest {mention : Mention} (found : names.findSome? (mentionOf? cs) = some mention) :
      Longest names cs mention := by
    obtain ⟨before, name, after, rfl, starts, silent⟩ := List.findSome?_eq_some_iff.1 found
    obtain rfl := name_of_mentionOf? starts
    refine ⟨by simp, starts, fun other there mentioned => ?_⟩
    obtain early | rfl | late := by simpa using there
    · rw [silent other early] at mentioned
      cases mentioned
    · exact Nat.le_refl _
    · exact (List.pairwise_cons.1 (List.pairwise_append.1 sorted).2.1).1 other late
  refine ⟨longest, fun held => ?_⟩
  -- Something is found, and the longest mention is the only one that can be.
  cases first : names.findSome? (mentionOf? cs) with
  | none => cases (List.findSome?_eq_none_iff.1 first _ held.among).symm.trans held.starts
  | some other => rw [(longest first).unique held]

end

theorem longestFirst_sorted (names : List String) :
    ((longestFirst names).map String.toList).Pairwise fun earlier later => later.length ≤ earlier.length := by
  have sorted : (longestFirst names).Pairwise fun earlier later => decide (later.length ≤ earlier.length) = true := by
    refine List.pairwise_mergeSort ?_ ?_ names
    · intro first second third before after
      rw [decide_eq_true_eq] at before after ⊢
      exact Nat.le_trans after before
    · intro first second
      simpa using Nat.le_total second.length first.length
  simpa [List.pairwise_map, String.length_toList] using sorted

/-- Which name is mentioned somewhere does not depend on the order of the names. -/
theorem findSome?_longestFirst_perm {names others : List String} (permuted : names.Perm others) (cs : List Char) :
    ((longestFirst names).map String.toList).findSome? (mentionOf? cs) =
      ((longestFirst others).map String.toList).findSome? (mentionOf? cs) := by
  have same (name : List Char) : name ∈ (longestFirst names).map String.toList ↔
      name ∈ (longestFirst others).map String.toList := by
    simp only [List.mem_map, longestFirst, List.mem_mergeSort, permuted.mem_iff]
  refine Option.ext fun mention => ?_
  rw [findSome?_mentionOf? (longestFirst_sorted names), findSome?_mentionOf? (longestFirst_sorted others),
    Longest.congr same]

theorem mentionsFrom_congr {names others : List (List Char)}
    (same : ∀ cs, names.findSome? (mentionOf? cs) = others.findSome? (mentionOf? cs)) (skip : Nat)
    (previous : Option Char) (cs : List Char) :
    mentionsFrom names skip previous cs = mentionsFrom others skip previous cs := by
  fun_induction mentionsFrom names skip previous cs with
  | case1 => rw [mentionsFrom]
  | case2 _ _ _ _ ih => rw [mentionsFrom, ih]
  | case3 previous c rest mention found ih =>
    rw [same] at found
    rw [mentionsFrom, found]
    exact congrArg (mention :: ·) ih
  | case4 previous c rest none ih =>
    rw [same] at none
    rw [mentionsFrom, none]
    exact ih

theorem mentions_perm {names others : List String} (permuted : names.Perm others) (cs : List Char) :
    mentions names cs = mentions others cs :=
  mentionsFrom_congr (findSome?_longestFirst_perm permuted) 0 none cs

section

variable {specs others : List Tool.Spec} (distinct : (specs.map Tool.Spec.name).Nodup) (permuted : specs.Perm others)

include distinct permuted

theorem specNamed?_perm (name : String) : specNamed? specs name = specNamed? others name := by
  have distinctToo : (others.map Tool.Spec.name).Nodup := (permuted.map _).nodup_iff.1 distinct
  cases found : specNamed? specs name with
  | some spec =>
    obtain ⟨member, rfl⟩ := specNamed?_cases found
    exact (specNamed?_of_mem distinctToo (permuted.mem_iff.1 member)).symm
  | none =>
    cases other : specNamed? others name with
    | none => rfl
    | some spec =>
      obtain ⟨member, rfl⟩ := specNamed?_cases other
      cases found.symm.trans (specNamed?_of_mem distinct (permuted.mem_iff.2 member))

theorem jsonHits_perm (limit : Int) (blocks : List (List Char)) :
    jsonHits limit specs blocks = jsonHits limit others blocks := by
  have alike (block : List Char) : jsonHit? limit specs block = jsonHit? limit others block := by
    simp only [jsonHit?, specNamed?_perm distinct permuted]
  induction blocks with
  | nil => rfl
  | cons block rest ih => simp only [jsonHits, alike, ih]

theorem textHits_perm (cs : List Char) : textHits specs cs = textHits others cs := by
  simp only [textHits, mentions_perm (permuted.map Tool.Spec.name), specNamed?_perm distinct permuted]

theorem named_perm (name : Json) : named specs name = named others name ∨
    named specs name = .error (.unknownFunction name (specs.map Tool.Spec.name)) ∧
      named others name = .error (.unknownFunction name (others.map Tool.Spec.name)) := by
  cases name with
  | text text =>
    cases found : specNamed? specs text with
    | some spec => exact .inl (by simp only [named, ← specNamed?_perm distinct permuted, found])
    | none => exact .inr (by simp only [named, ← specNamed?_perm distinct permuted, found, and_self])
  | list | object => exact .inl rfl
  | null | bool | number => exact .inr ⟨rfl, rfl⟩

theorem searchText_perm (limit : Int) (text : String) : searchText limit specs text = searchText limit others text := by
  simp only [searchText, jsonHits_perm distinct permuted, textHits_perm distinct permuted]

end

/-- Two outcomes that tell the same of a reply. A report of a function that is not offered may list those that are in
another order. -/
inductive Alike : Except Failure Finding → Except Failure Finding → Prop where
  | found (finding : Finding) : Alike (.ok finding) (.ok finding)
  | unknown (name : Json) {available others : List String} (permuted : available.Perm others) :
      Alike (.error (.unknownFunction name available)) (.error (.unknownFunction name others))

section

variable (limit : Int) (reading : Reading) {specs others : List Tool.Spec}
  (distinct : (specs.map Tool.Spec.name).Nodup) (permuted : specs.Perm others)

include distinct permuted

/-- A search comes to the same with either list, but for the lists in its report of a function that is not offered. -/
theorem search_perm :
    ((search limit reading specs).1 = (search limit reading others).1 ∨
      ∃ name, (search limit reading specs).1 = .error (.unknownFunction name (specs.map Tool.Spec.name)) ∧
        (search limit reading others).1 = .error (.unknownFunction name (others.map Tool.Spec.name))) ∧
    (search limit reading specs).2 = (search limit reading others).2 := by
  have distinctToo : (others.map Tool.Spec.name).Nodup := (permuted.map _).nodup_iff.1 distinct
  unfold search
  rw [offered_of_nodup distinct, offered_of_nodup distinctToo]
  cases reading.calls with
  | nil =>
    simp only [permuted.isEmpty_eq, searchText_perm distinct permuted]
    exact ⟨.inl trivial, trivial⟩
  | cons first rest =>
    refine ⟨?_, rfl⟩
    obtain same | ⟨unknown, unknownToo⟩ := named_perm distinct permuted first.1
    · simp only [same]
      exact .inl trivial
    · simp only [unknown, unknownToo]
      exact .inr ⟨first.1, rfl, rfl⟩

/-- A search breaks off on either list or on neither. -/
theorem search_unsearchable {failure : Failure} (unsearchable : Unsearchable limit reading specs failure) :
    (search limit reading specs).1 = .error failure ∧ (search limit reading others).1 = .error failure := by
  have other : ∀ name available, failure ≠ .unknownFunction name available := by
    rintro name available rfl
    cases unsearchable.foreign
  have failed : (search limit reading specs).1 = .error failure := by
    rwa [search_eq_error other, offered_of_nodup distinct]
  obtain same | ⟨name, unknown, _⟩ := (search_perm limit reading distinct permuted).1
  · exact ⟨failed, same ▸ failed⟩
  · exact absurd (Except.error.inj (failed.symm.trans unknown)) (other _ _)

end

/-- Functions under names of their own may be offered in any order: a search comes to the same finding or reports the same
function as not offered, unless it breaks off, and then it does so in either order; and it records the same. -/
theorem search_order_irrelevant (limit : Int) (reading : Reading) {specs others : List Tool.Spec}
    (distinct : (specs.map Tool.Spec.name).Nodup) (permuted : specs.Perm others) :
    (Alike (search limit reading specs).1 (search limit reading others).1 ↔
      ∀ failure, ¬Unsearchable limit reading specs failure) ∧
    (∀ failure, Unsearchable limit reading specs failure →
      (search limit reading specs).1 = .error failure ∧ (search limit reading others).1 = .error failure) ∧
    (search limit reading specs).2 = (search limit reading others).2 := by
  obtain ⟨outcomes, records⟩ := search_perm limit reading distinct permuted
  refine ⟨⟨fun alike failure unsearchable => ?_, fun unfailing => ?_⟩,
    fun failure => search_unsearchable limit reading distinct permuted, records⟩
  · obtain ⟨failed, failedToo⟩ := search_unsearchable limit reading distinct permuted unsearchable
    rw [failed, failedToo] at alike
    cases alike with
    | unknown => cases unsearchable.foreign
  · obtain same | ⟨name, unknown, unknownToo⟩ := outcomes
    · rw [← same]
      cases searched : (search limit reading specs).1 with
      | ok finding => exact .found finding
      | error failure =>
        by_cases unknown : ∃ name available, failure = .unknownFunction name available
        · obtain ⟨name, available, rfl⟩ := unknown
          exact .unknown name (.refl _)
        · refine absurd ?_ (unfailing failure)
          rwa [search_eq_error (fun name available same => unknown ⟨name, available, same⟩),
            offered_of_nodup distinct] at searched
    · rw [unknown, unknownToo]
      exact .unknown name (permuted.map Tool.Spec.name)

def overlapping : List Tool.Spec :=
  [{ name := "to", arguments := ["place"] }, { name := "go" }, { name := "go to", arguments := ["place"] }]

def travelling : Reading := ⟨"gpt", false, [], "I go to (\"sea\")."⟩

theorem overlapping_order_irrelevant :
    (overlapping.map Tool.Spec.name).Nodup ∧ overlapping.Perm overlapping.reverse ∧
      Alike (search defaultLimit travelling overlapping).1 (search defaultLimit travelling overlapping.reverse).1 ∧
      (search defaultLimit travelling overlapping).1.toOption = some ⟨some ⟨"go to", ["sea"], .text⟩, none⟩ := by
  have distinct : (overlapping.map Tool.Spec.name).Nodup := by decide
  have permuted : overlapping.Perm overlapping.reverse := (List.reverse_perm _).symm
  have lengths : "to".length = 2 ∧ "go".length = 2 ∧ "go to".length = 5 := by decide
  have sorted : longestFirst (overlapping.map Tool.Spec.name) = ["go to", "to", "go"] := by
    simp [longestFirst, overlapping, List.mergeSort, lengths]
  have found : (search defaultLimit travelling overlapping).1.toOption = some ⟨some ⟨"go to", ["sea"], .text⟩, none⟩ := by
    simp only [search, travelling, offered_of_nodup distinct, searchText, textHits, mentions, sorted]
    decide +kernel
  obtain ⟨alike, breaks, _⟩ := search_order_irrelevant defaultLimit travelling distinct permuted
  refine ⟨distinct, permuted, alike.2 fun failure unsearchable => ?_, found⟩
  rw [(breaks failure unsearchable).1] at found
  cases found

/-- A call whose name is a list. -/
def listing : Reading := ⟨"gpt", false, [(.list ["echo"], .null)], ""⟩

/-- A search breaks off on a call whose name is a list, although no function that is offered has such a name. -/
theorem listing_unalike :
    ([Tool.echo.spec, Tool.joined.spec].map Tool.Spec.name).Nodup ∧
      [Tool.echo.spec, Tool.joined.spec].Perm [Tool.joined.spec, Tool.echo.spec] ∧
      ¬Alike (search defaultLimit listing [Tool.echo.spec, Tool.joined.spec]).1
        (search defaultLimit listing [Tool.joined.spec, Tool.echo.spec]).1 := by
  refine ⟨by decide, .swap _ _ _, fun alike => ?_⟩
  have failed (specs : List Tool.Spec) :
      (search defaultLimit listing specs).1 = .error (.foreign .wrongType "unhashable type: 'list'") := rfl
  rw [failed, failed] at alike
  cases alike

end Parley.Extraction

