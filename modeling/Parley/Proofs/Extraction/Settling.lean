import Parley.Proofs.Extraction.TextCalls

/-!
What a search settles on. The hits of a text are those of all its blocks that can be read, and then those of its
mentions; the search is over with the first of them that fits, unless a block before it cannot be read. A call found in
any way can be carried out.
-/

namespace Parley.Extraction

/-- A call of an offered function, which accepts as many arguments unless the vendor itself made the call. -/
def Executable (specs : List Tool.Spec) (call : Tool.Call) : Prop :=
  ∃ spec ∈ specs, spec.name = call.name ∧ (call.source ≠ .structured → spec.accepts call.arguments.length = true)

def blockHit? (limit : Int) (table : List Tool.Spec) (block : List Char) : Option Hit :=
  (jsonHit? limit table block).toOption.join

/-- All hits of a text, whether or not the search comes to them. -/
def hitsOf (limit : Int) (table : List Tool.Spec) (text : String) : List Hit :=
  (braceBlocks text.toList).filterMap (blockHit? limit table) ++ textHits table text.toList

/-- What hits come to: the first that fits is the call, and nothing is noted; or the first is noted if none fits. -/
inductive Settles : List Hit → Finding → Prop where
  | fit {before after : List Hit} {hit : Hit} {call : Tool.Call} (unfit : ∀ earlier ∈ before, earlier.call? = none)
      (fits : hit.call = .ok call) : Settles (before ++ hit :: after) ⟨some call, none⟩
  | unfit {first : Hit} {rest : List Hit} {misfit : Misfit} (differs : first.call = .error misfit)
      (unfit : ∀ later ∈ rest, later.call? = none) :
      Settles (first :: rest) ⟨none, some ⟨String.ofList first.fragment, misfit.reason⟩⟩
  | nothing : Settles [] {}

theorem Hit.call?_eq_some {hit : Hit} {call : Tool.Call} : hit.call? = some call ↔ hit.call = .ok call := by
  unfold Hit.call?
  cases hit.call with
  | error misfit => simp [Except.toOption]
  | ok other => simp [Except.toOption]

theorem Hit.call?_eq_none {hit : Hit} : hit.call? = none ↔ ∃ misfit, hit.call = .error misfit := by
  unfold Hit.call?
  cases hit.call with
  | error misfit => simp [Except.toOption]
  | ok other => simp [Except.toOption]

theorem settles_settle (hits : List Hit) : Settles hits (settle hits) := by
  cases fits : hits.findSome? Hit.call? with
  | some call =>
    obtain ⟨before, hit, after, rfl, found, unfit⟩ := List.findSome?_eq_some_iff.1 fits
    rw [settle, fits]
    exact .fit unfit (Hit.call?_eq_some.1 found)
  | none =>
    have unfit := List.findSome?_eq_none_iff.1 fits
    rw [settle, fits]
    cases hits with
    | nil => exact .nothing
    | cons first rest =>
      obtain ⟨misfit, differs⟩ := Hit.call?_eq_none.1 (unfit first (.head _))
      have noted : first.ambiguity? = some ⟨String.ofList first.fragment, misfit.reason⟩ := by
        rw [Hit.ambiguity?, differs]
      simp only [List.head?_cons, Option.bind_some, noted]
      exact .unfit differs fun later held => unfit later (.tail _ held)

theorem Settles.of_found {hits : List Hit} {finding : Finding} {call : Tool.Call} (settles : Settles hits finding)
    (finds : finding.call = some call) : ∃ hit ∈ hits, hit.call = .ok call := by
  cases settles with
  | @fit before after hit _ unfit fits =>
    cases finds
    exact ⟨hit, by simp, fits⟩
  | unfit | nothing => cases finds

theorem Settles.found_iff {hits : List Hit} {finding : Finding} (settles : Settles hits finding) :
    finding.call.isSome = true ↔ ∃ hit ∈ hits, ∃ call, hit.call = .ok call := by
  constructor
  · intro found
    obtain ⟨call, finds⟩ := Option.isSome_iff_exists.1 found
    obtain ⟨hit, held, fits⟩ := settles.of_found finds
    exact ⟨hit, held, call, fits⟩
  · intro holds
    obtain ⟨hit, held, call, fits⟩ := holds
    have fit := Hit.call?_eq_some.2 fits
    cases settles with
    | fit => rfl
    | unfit differs unfit =>
      obtain _ | ⟨_, later⟩ := held
      · cases fits.symm.trans differs
      · cases fit.symm.trans (unfit hit later)
    | nothing => cases held

theorem settles_iff {hits : List Hit} {finding : Finding} : Settles hits finding ↔ settle hits = finding := by
  constructor
  · intro settles
    cases settles with
    | @fit before after hit call unfit fits =>
      have first : (before ++ hit :: after).findSome? Hit.call? = some call :=
        List.findSome?_eq_some_iff.2 ⟨before, hit, after, rfl, Hit.call?_eq_some.2 fits, unfit⟩
      rw [settle, first]
    | @unfit first rest misfit differs unfit =>
      have none : (first :: rest).findSome? Hit.call? = none :=
        List.findSome?_eq_none_iff.2 (List.forall_mem_cons.2 ⟨Hit.call?_eq_none.2 ⟨_, differs⟩, unfit⟩)
      rw [settle, none]
      simp only [List.head?_cons, Option.bind_some, Hit.ambiguity?, differs]
    | nothing => rfl
  · intro same
    exact same ▸ settles_settle hits

theorem settle_congr {hits others : List Hit} (rest : List Hit) (first : hits.head? = others.head?)
    (fits : hits.findSome? Hit.call? = others.findSome? Hit.call?) : settle (hits ++ rest) = settle (others ++ rest) := by
  simp only [settle, List.findSome?_append, List.head?_append, first, fits]

/-- The search may stop at the first block that fits. -/
theorem jsonHits_settle {limit : Int} {table : List Tool.Spec} {blocks : List (List Char)} {hits : List Hit}
    (scanned : jsonHits limit table blocks = .ok hits) :
    hits.head? = (blocks.filterMap (blockHit? limit table)).head? ∧
      hits.findSome? Hit.call? = (blocks.filterMap (blockHit? limit table)).findSome? Hit.call? := by
  induction blocks generalizing hits with
  | nil =>
    cases scanned
    exact ⟨rfl, rfl⟩
  | cons block rest ih =>
    cases read : jsonHit? limit table block with
    | error failure =>
      simp only [jsonHits, read] at scanned
      cases scanned
    | ok found =>
      have is : blockHit? limit table block = found := by rw [blockHit?, read]; rfl
      cases found with
      | none =>
        simp only [jsonHits, read] at scanned
        rw [List.filterMap_cons_none is]
        exact ih scanned
      | some hit =>
        rw [List.filterMap_cons_some is]
        cases fits : hit.call? with
        | some call =>
          simp only [jsonHits, read, fits, Option.isSome_some, if_true] at scanned
          cases scanned
          simp [fits]
        | none =>
          simp only [jsonHits, read, fits, Option.isSome_none, Bool.false_eq_true, if_false] at scanned
          cases later : jsonHits limit table rest with
          | error failure =>
            rw [later] at scanned
            cases scanned
          | ok others =>
            rw [later] at scanned
            cases scanned
            simp [fits, (ih later).2]

/-- A search of a text that succeeds settles on what all hits of the text come to. -/
theorem searchText_settles {limit : Int} {table : List Tool.Spec} {text : String} {finding : Finding}
    (searched : searchText limit table text = .ok finding) : Settles (hitsOf limit table text) finding := by
  cases scanned : jsonHits limit table (braceBlocks text.toList) with
  | error failure =>
    rw [searchText, scanned] at searched
    cases searched
  | ok hits =>
    rw [searchText, scanned] at searched
    obtain ⟨first, fits⟩ := jsonHits_settle scanned
    obtain rfl : settle (hits ++ textHits table text.toList) = finding := Except.ok.inj searched
    rw [settle_congr _ first fits]
    exact settles_settle _

theorem name_of_mentionOf? {cs name : List Char} {mention : Mention} (is : mentionOf? cs name = some mention) :
    mention.name = name := by
  unfold mentionOf? at is
  split at is
  next => cases is
  next =>
    split at is
    next =>
      cases is
      rfl
    next => cases is

theorem name_mem_of_mentionsFrom {names : List (List Char)} {mention : Mention} (skip : Nat) (previous : Option Char)
    (cs : List Char) (held : mention ∈ mentionsFrom names skip previous cs) : mention.name ∈ names := by
  fun_induction mentionsFrom names skip previous cs with
  | case1 => cases held
  | case2 _ _ _ _ ih => exact ih held
  | case3 previous c rest first found ih =>
    obtain _ | ⟨_, later⟩ := held
    · split at found
      next =>
        obtain ⟨name, member, is⟩ := List.exists_of_findSome?_eq_some found
        exact name_of_mentionOf? is ▸ member
      next => cases found
    · exact ih later
  | case4 _ _ _ _ ih => exact ih held

theorem mention_named {table : List Tool.Spec} {cs : List Char} {mention : Mention}
    (held : mention ∈ mentions (table.map Tool.Spec.name) cs) :
    (specNamed? table (String.ofList mention.name)).isSome = true := by
  obtain ⟨name, member, same⟩ := List.mem_map.1 (name_mem_of_mentionsFrom 0 none cs held)
  obtain ⟨spec, offers, named⟩ := List.mem_map.1 (List.mem_mergeSort.1 member)
  rw [← same, String.ofList_toList, specNamed?, List.find?_isSome]
  exact ⟨spec, offers, by simpa using named⟩

theorem specNamed?_cases {table : List Tool.Spec} {name : String} {spec : Tool.Spec}
    (named : specNamed? table name = some spec) : spec ∈ table ∧ spec.name = name :=
  ⟨List.mem_of_find?_eq_some named, by simpa using List.find?_some named⟩

theorem executable_of_counted {table : List Tool.Spec} {spec : Tool.Spec} {source : Tool.Source}
    {arguments : List String} {call : Tool.Call} (member : spec ∈ table)
    (fits : counted spec source arguments = .ok call) : Executable table call := by
  cases accepted : spec.accepts arguments.length with
  | true =>
    rw [counted_of_accepts source accepted] at fits
    cases fits
    exact ⟨spec, member, rfl, fun _ => accepted⟩
  | false =>
    simp only [counted, countMisfit?, accepted, Bool.false_eq_true, if_false] at fits
    cases fits

theorem executable_of_blockHit? {limit : Int} {table : List Tool.Spec} {block : List Char} {hit : Hit} {call : Tool.Call}
    (is : blockHit? limit table block = some hit) (fits : hit.call = .ok call) : Executable table call := by
  have read : jsonHit? limit table block = .ok (some hit) := eq_ok_of_toOption (Option.join_eq_some_iff.1 is)
  obtain ⟨written, _, rest⟩ := bind_eq_ok.1 read
  cases written with
  | none => cases rest
  | some called =>
    obtain ⟨name, arguments⟩ := called
    cases named : specNamed? table name with
    | none =>
      simp only [named] at rest
      cases rest
    | some spec =>
      simp only [named] at rest
      obtain ⟨values, _, rest⟩ := bind_eq_ok.1 rest
      cases rest
      exact executable_of_counted (specNamed?_cases named).1 fits

theorem executable_of_textHits {table : List Tool.Spec} {cs : List Char} {hit : Hit} {call : Tool.Call}
    (held : hit ∈ textHits table cs) (fits : hit.call = .ok call) : Executable table call := by
  obtain ⟨mention, _, is⟩ := List.mem_filterMap.1 held
  obtain ⟨spec, named, rfl⟩ := Option.map_eq_some_iff.1 is
  cases bound : (mention.call spec).2 with
  | error misfit =>
    simp only [bound, Except.bind] at fits
    cases fits
  | ok arguments =>
    simp only [bound, Except.bind] at fits
    exact executable_of_counted (specNamed?_cases named).1 fits

theorem executable_of_hitsOf {limit : Int} {table : List Tool.Spec} {text : String} {hit : Hit} {call : Tool.Call}
    (held : hit ∈ hitsOf limit table text) (fits : hit.call = .ok call) : Executable table call := by
  obtain written | mentioned := List.mem_append.1 held
  · obtain ⟨block, _, is⟩ := List.mem_filterMap.1 written
    exact executable_of_blockHit? is fits
  · exact executable_of_textHits mentioned fits

/-- Whatever a search finds can be carried out. -/
theorem executable_of_search {limit : Int} {reading : Reading} {specs : List Tool.Spec} {finding : Finding}
    {call : Tool.Call} (searched : (search limit reading specs).1 = .ok finding) (finds : finding.call = some call) :
    Executable (offered specs) call := by
  cases calls : reading.calls with
  | cons first others =>
    obtain ⟨name, arguments⟩ := first
    simp only [search, calls] at searched
    obtain ⟨⟨text, spec⟩, names, rest⟩ := bind_eq_ok.1 searched
    obtain ⟨values, _, rest⟩ := bind_eq_ok.1 rest
    cases rest
    cases finds
    obtain ⟨_, named⟩ := named_eq_ok.1 names
    obtain ⟨member, same⟩ := specNamed?_cases named
    exact ⟨spec, member, same, fun other => absurd rfl other⟩
  | nil =>
    simp only [search, calls] at searched
    split at searched
    next =>
      cases searched
      cases finds
    next =>
      obtain ⟨hit, held, fits⟩ := (searchText_settles searched).of_found finds
      exact executable_of_hitsOf held fits

/-- A search of a text, without a call of the vendor's, succeeds exactly if no block is in its way, and comes then to what
all hits of the text settle on. -/
theorem search_eq_ok {limit : Int} {reading : Reading} {specs : List Tool.Spec} {finding : Finding}
    (silent : reading.calls = []) (offers : offered specs ≠ []) (written : reading.text ≠ "") :
    (search limit reading specs).1 = .ok finding ↔
      (∀ failure, ¬Unsearchable limit reading (offered specs) failure) ∧
        Settles (hitsOf limit (offered specs) reading.text) finding := by
  have searches : (search limit reading specs).1 = searchText limit (offered specs) reading.text := by
    simp [search, silent, offers, written]
  simp only [← search_silent_eq_error silent, searches]
  constructor
  · intro searched
    refine ⟨fun failure failed => ?_, searchText_settles searched⟩
    cases searched.symm.trans failed
  · intro holds
    obtain ⟨unfailing, settles⟩ := holds
    cases searched : searchText limit (offered specs) reading.text with
    | error failure => exact absurd searched (unfailing failure)
    | ok other => rw [← settles_iff.1 settles, settles_iff.1 (searchText_settles searched)]

end Parley.Extraction

