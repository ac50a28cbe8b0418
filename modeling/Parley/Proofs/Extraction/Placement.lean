import Parley.Proofs.Extraction.Bounds

/-!
Where the values of an object of arguments end up. They are passed on in the order of the declared arguments, closed up
and followed by the values of all other keys, and only their number is checked. So each one is in its own place exactly
if there is nothing to close up and nothing to follow.
-/

namespace Parley.Extraction

def received (spec : Tool.Spec) (fields : Fields) : List String :=
  (orderedValues spec.arguments fields).map argumentText

/-- Each argument that is given has its own text in its own place, and nothing stands in the place of another. -/
def Placed (spec : Tool.Spec) (fields : Fields) (texts : List String) : Prop :=
  ∀ (index : Nat) name, spec.arguments[index]? = some name → texts[index]? = (fields.lookup name).map argumentText

/-- An object of arguments with no keys but those declared, in which no argument is given after one that is left out. -/
structure Gapless (spec : Tool.Spec) (fields : Fields) : Prop where
  declared : ∀ field ∈ fields, field.1 ∈ spec.arguments
  ordered : spec.arguments.Pairwise fun earlier later =>
    (fields.lookup later).isSome = true → (fields.lookup earlier).isSome = true

theorem pairwise_after_gap {α β : Type} {given : α → Option β} {name : α} {rest : List α} (gap : given name = none) :
    (name :: rest).Pairwise (fun earlier later => (given later).isSome = true → (given earlier).isSome = true) ↔
      ∀ later ∈ rest, given later = none := by
  constructor
  · intro ordered later member
    cases known : given later with
    | none => rfl
    | some value =>
      have before := (List.pairwise_cons.1 ordered).1 later member (by rw [known]; rfl)
      rw [gap] at before
      cases before
  · intro absent
    have never : ∀ earlier, ∀ later ∈ rest, (given later).isSome = true → (given earlier).isSome = true := by
      intro earlier later member given
      rw [absent later member] at given
      cases given
    exact List.pairwise_cons.2 ⟨never name, List.pairwise_of_forall_mem_list fun earlier _ => never earlier⟩

/-- What is given closes up over what is not. A list that is not longer than its names has everything in its place if
nothing is left over and nothing is closed up. -/
theorem closed_up_iff {α β : Type} {given : α → Option β} {names : List α} {others : List β}
    (short : (names.filterMap given ++ others).length ≤ names.length) :
    (∀ (index : Nat) name, names[index]? = some name → (names.filterMap given ++ others)[index]? = given name) ↔
      others = [] ∧ names.Pairwise fun earlier later => (given later).isSome = true → (given earlier).isSome = true := by
  induction names with
  | nil =>
    have none : others = [] := by simpa using short
    simp [none]
  | cons name rest ih =>
    cases first : given name with
    | none =>
      rw [List.filterMap_cons_none first]
      constructor
      · intro placed
        have nothing : rest.filterMap given ++ others = [] := by
          have head := placed 0 name rfl
          rw [first] at head
          exact List.head?_eq_none_iff.1 (by rw [List.head?_eq_getElem?]; exact head)
        obtain ⟨absent, rfl⟩ := List.append_eq_nil_iff.1 nothing
        exact ⟨rfl, (pairwise_after_gap first).2 (List.filterMap_eq_nil_iff.1 absent)⟩
      · intro holds index other there
        obtain ⟨rfl, ordered⟩ := holds
        have absent := (pairwise_after_gap first).1 ordered
        rw [List.filterMap_eq_nil_iff.2 absent]
        cases index with
        | zero =>
          obtain rfl : name = other := by simpa using there
          exact first.symm
        | succ index =>
          have member : other ∈ rest := List.mem_of_getElem? (by simpa using there)
          exact (absent other member).symm
    | some value =>
      rw [List.filterMap_cons_some first] at short ⊢
      have shorter : (rest.filterMap given ++ others).length ≤ rest.length := by simpa using short
      rw [List.pairwise_cons, first]
      have rests := ih shorter
      constructor
      · intro placed
        obtain ⟨none, ordered⟩ := rests.1 fun index other there => placed (index + 1) other (by simpa using there)
        exact ⟨none, fun _ _ _ => rfl, ordered⟩
      · intro holds index other there
        obtain ⟨none, _, ordered⟩ := holds
        cases index with
        | zero =>
          obtain rfl : name = other := by simpa using there
          exact first.symm
        | succ index => exact rests.2 ⟨none, ordered⟩ index other (by simpa using there)

theorem received_eq (spec : Tool.Spec) (fields : Fields) :
    received spec fields = spec.arguments.filterMap (fun name => (fields.lookup name).map argumentText) ++
      (fields.filter fun field => !spec.arguments.contains field.1).map fun field => argumentText field.2 := by
  simp only [received, orderedValues, List.map_append, List.map_filterMap, List.map_map, Function.comp_def]

/-- The values of an object that may be passed on are in their places exactly if there is no gap. -/
theorem placed_received_iff {spec : Tool.Spec} {fields : Fields}
    (accepted : spec.accepts (received spec fields).length = true) :
    Placed spec fields (received spec fields) ↔ Gapless spec fields := by
  have short : (received spec fields).length ≤ spec.arguments.length := by
    simp only [Tool.Spec.accepts, Bool.and_eq_true, decide_eq_true_eq] at accepted
    exact Int.ofNat_le.1 accepted.2
  unfold Placed
  rw [received_eq] at short ⊢
  rw [closed_up_iff short, List.map_eq_nil_iff, List.filter_eq_nil_iff]
  simp only [Option.isSome_map]
  constructor
  · intro holds
    obtain ⟨declared, ordered⟩ := holds
    exact ⟨fun field member => by simpa using declared field member, ordered⟩
  · intro holds
    obtain ⟨declared, ordered⟩ := holds
    exact ⟨fun field member => by simpa using declared field member, ordered⟩

def Spells (arguments : Json) (fields : Fields) : Prop :=
  arguments = .object fields ∨ ∃ raw, arguments = .text raw ∧ Text.isBlankText raw = false ∧
    Json.readList (Text.trimList raw.toList) = .ok (.object fields)

theorem argumentsOf_of_spells {spec : Tool.Spec} {arguments : Json} {fields : Fields}
    (spells : Spells arguments fields) : argumentsOf (some spec) arguments = .ok (received spec fields) := by
  obtain rfl | ⟨raw, rfl, written, read⟩ := spells
  · rfl
  · simp only [argumentsOf, written, Bool.false_eq_true, if_false, Json.decoded?_eq_some read]
    rfl

/-- A reply calls a function with an object of arguments: in the vendor's own call field, or without it in the first
call written as JSON that fits its function. -/
inductive Gives (limit : Int) (reading : Reading) (table : List Tool.Spec) (spec : Tool.Spec) (fields : Fields) :
    Prop where
  | structured {arguments : Json} {others : List (Json × Json)} (offers : specNamed? table spec.name = some spec)
      (calls : reading.calls = (.text spec.name, arguments) :: others) (spells : Spells arguments fields)
  | written {before after : List (List Char)} {block : List Char} {arguments : Json}
      (offers : specNamed? table spec.name = some spec) (silent : reading.calls = [])
      (blocks : braceBlocks reading.text.toList = before ++ block :: after)
      (passed : ∀ earlier ∈ before, Passes limit table earlier)
      (writes : writtenCall? limit block = .ok (some (spec.name, arguments))) (spells : Spells arguments fields)
      (fits : spec.accepts (received spec fields).length = true)

theorem Gives.offers {limit : Int} {reading : Reading} {table : List Tool.Spec} {spec : Tool.Spec} {fields : Fields}
    (gives : Gives limit reading table spec fields) : specNamed? table spec.name = some spec := by
  cases gives with
  | structured offers | written offers => exact offers

/-- The first block that is a call that fits ends the search. -/
theorem jsonHits_of_fits {limit : Int} {table : List Tool.Spec} {before : List (List Char)} {block : List Char}
    (after : List (List Char)) {hit : Hit} {call : Tool.Call} (passed : ∀ earlier ∈ before, Passes limit table earlier)
    (hits : jsonHit? limit table block = .ok (some hit)) (fits : hit.call? = some call) :
    ∃ found, jsonHits limit table (before ++ block :: after) = .ok found ∧ found.findSome? Hit.call? = some call := by
  induction before with
  | nil => exact ⟨[hit], by simp [jsonHits, hits, fits], by simp [fits]⟩
  | cons head rest ih =>
    obtain ⟨found, rests, settled⟩ := ih fun earlier member => passed earlier (.tail _ member)
    obtain ⟨first, read, unfit⟩ := passed head (.head _)
    cases first with
    | none => exact ⟨found, by simp only [List.cons_append, jsonHits, read, rests], settled⟩
    | some other =>
      have unfit : other.call? = none := unfit
      refine ⟨other :: found, ?_, by simp [unfit, settled]⟩
      simp only [List.cons_append, jsonHits, read, unfit, Option.isSome_none, Bool.false_eq_true, if_false, rests]
      rfl

theorem search_of_jsonHits {limit : Int} {reading : Reading} {specs : List Tool.Spec} {hits : List Hit}
    {call : Tool.Call} (silent : reading.calls = []) (offering : (offered specs).isEmpty = false)
    (scanned : jsonHits limit (offered specs) (braceBlocks reading.text.toList) = .ok hits)
    (fits : hits.findSome? Hit.call? = some call) : search limit reading specs = (.ok ⟨some call, none⟩, []) := by
  have written : reading.text.isEmpty = false := by
    refine Bool.eq_false_iff.2 fun empty => ?_
    rw [String.isEmpty_iff.1 empty] at scanned
    cases scanned
    cases fits
  have finds : searchText limit (offered specs) reading.text = .ok ⟨some call, none⟩ := by
    simp only [searchText, scanned, Except.map, settle, List.findSome?_append, fits, Option.some_or]
  simp only [search, silent, offering, written, Bool.or_self, Bool.false_eq_true, if_false, finds]
  rfl

/-- The search finds the call that a reply makes with an object of arguments. -/
theorem search_of_gives {limit : Int} {reading : Reading} {specs : List Tool.Spec} {spec : Tool.Spec}
    {fields : Fields} (gives : Gives limit reading (offered specs) spec fields) :
    ∃ source, (search limit reading specs).1 = .ok ⟨some ⟨spec.name, received spec fields, source⟩, none⟩ := by
  cases gives with
  | structured offers calls spells =>
    refine ⟨.structured, ?_⟩
    simp only [search, calls, named, offers, argumentsOf_of_spells spells]
    rfl
  | @written before after block arguments offers silent blocks passed writes spells fits =>
    refine ⟨.json, ?_⟩
    have count : counted spec .json (received spec fields) = .ok ⟨spec.name, received spec fields, .json⟩ := by
      simp only [counted, countMisfit?, fits, if_true]
    have hits : jsonHit? limit (offered specs) block =
        .ok (some ⟨block, .ok ⟨spec.name, received spec fields, .json⟩⟩) := by
      unfold jsonHit?
      rw [writes]
      simp only [bind, Except.bind, offers, argumentsOf_of_spells spells, count]
      rfl
    obtain ⟨found, scanned, settled⟩ := jsonHits_of_fits after passed hits rfl
    have offering : (offered specs).isEmpty = false := by
      cases table : offered specs with
      | nil =>
        rw [table] at offers
        cases offers
      | cons => rfl
    rw [search_of_jsonHits silent offering (blocks ▸ scanned) settled]

theorem offered_of_nodup {specs : List Tool.Spec} (distinct : (specs.map Tool.Spec.name).Nodup) :
    offered specs = specs := by
  have appends : ∀ (spec : Tool.Spec) (table : List Tool.Spec), spec.name ∉ table.map Tool.Spec.name →
      offer spec table = table ++ [spec] := by
    intro spec table absent
    induction table with
    | nil => rfl
    | cons other rest ih =>
      simp only [List.map_cons, List.mem_cons, not_or] at absent
      have differ : other.name ≠ spec.name := fun same => absent.1 same.symm
      simp only [offer, differ, if_false, ih absent.2, List.cons_append]
  have folds : ∀ rest table : List Tool.Spec, ((table ++ rest).map Tool.Spec.name).Nodup →
      rest.foldl (fun table spec => offer spec table) table = table ++ rest := by
    intro rest
    induction rest with
    | nil => simp
    | cons spec rest ih =>
      intro table distinct
      have absent : spec.name ∉ table.map Tool.Spec.name := by
        intro member
        rw [List.map_append, List.map_cons, List.nodup_append] at distinct
        exact distinct.2.2 _ member _ (.head _) rfl
      rw [List.foldl_cons, appends spec table absent, ih]
      · simp
      · simpa using distinct
  simpa [offered] using folds specs [] (by simpa using distinct)

end Parley.Extraction

