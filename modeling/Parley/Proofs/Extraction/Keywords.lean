import Mathlib.Data.List.Basic
import Mathlib.Data.List.Nodup
import Parley.Proofs.Extraction.TextCalls

namespace Parley.Extraction

def named? (part : List Char) : Option (String × String) :=
  (keyword? part).map fun field => (field.1, String.ofList (unquote field.2))

def given (part : List Char) : String := ((named? part).map Prod.snd).getD (String.ofList (unquote part))

def entries (parts : List (List Char)) : Table String := parts.filterMap named?

def positionals (parts : List (List Char)) : List String :=
  (parts.filter fun part => (named? part).isNone).map given

/-- The place of the argument for which the written one at an index is meant. -/
def target (spec : Tool.Spec) (index : Nat) (part : List Char) : Nat :=
  ((named? part).map fun entry => spec.arguments.idxOf entry.1).getD index

/-- Everything that is written is the value of the argument for which it is meant, and there are no other values. That
the places are those of the values, each of them once, leaves no two written arguments for one place. -/
structure Faithful (spec : Tool.Spec) (parts : List (List Char)) (values : List String) : Prop where
  declared : ∀ (index : Nat) part, parts[index]? = some part → target spec index part < spec.arguments.length
  bound : ∀ (index : Nat) part, parts[index]? = some part → values[target spec index part]? = some (given part)
  once : (parts.mapIdx (target spec)).Perm (List.range values.length)

/-- No keyword is repeated, and none is that of an argument given by position. -/
structure GivenOnce (spec : Tool.Spec) (parts : List (List Char)) : Prop where
  distinct : (entries parts).names.Nodup
  apart : ∀ key ∈ (entries parts).names, key ∉ spec.arguments.take (positionals parts).length

theorem put_ne_nil (name value : String) (table : Table String) : table.put name value ≠ [] := by
  cases table with
  | nil => simp [Table.put]
  | cons entry rest =>
    unfold Table.put
    split
    next => simp
    next => simp

theorem add_eq_ok {spec : Tool.Spec} {written next : Written} {part : List Char}
    (added : written.add spec part = .ok next) :
    (named? part = none ∧ written.keywords = [] ∧ next = ⟨written.positional ++ [given part], written.keywords⟩) ∨
    ∃ entry, named? part = some entry ∧ entry.1 ∈ spec.arguments ∧
      next = ⟨written.positional, written.keywords.put entry.1 entry.2⟩ := by
  unfold Written.add at added
  split at added
  next key value read =>
    split at added
    next known =>
      obtain rfl := Except.ok.inj added
      exact .inr ⟨(key, String.ofList (unquote value)), by rw [named?, read]; rfl, by simpa using known, rfl⟩
    next => cases added
  next unread =>
    have bare : named? part = none := by rw [named?, unread]; rfl
    split at added
    next first =>
      obtain rfl := Except.ok.inj added
      exact .inl ⟨bare, List.isEmpty_iff.1 first, by rw [given, bare]; rfl⟩
    next => cases added

/-- Written arguments that come apart into some by position and some by keyword, all of them declared. -/
structure Split (spec : Tool.Spec) (parts front back : List (List Char)) : Prop where
  whole : parts = front ++ back
  bare : ∀ part ∈ front, named? part = none
  keyed : ∀ part ∈ back, ∃ entry, named? part = some entry ∧ entry.1 ∈ spec.arguments

theorem read_eq_ok {spec : Tool.Spec} {written final : Written} {parts : List (List Char)}
    (read : Written.read spec written parts = .ok final) :
    ∃ front back, Split spec parts front back ∧ (written.keywords ≠ [] → front = []) ∧
      final.positional = written.positional ++ front.map given ∧
      final.keywords = (entries back).foldl (fun table entry => table.put entry.1 entry.2) written.keywords := by
  induction parts generalizing written with
  | nil =>
    obtain rfl := Except.ok.inj read
    exact ⟨[], [], ⟨rfl, by simp, by simp⟩, fun _ => rfl, by simp, rfl⟩
  | cons part rest ih =>
    unfold Written.read at read
    cases added : written.add spec part with
    | error misfit =>
      rw [added] at read
      cases read
    | ok next =>
      rw [added] at read
      obtain ⟨front, back, split, none, positional, keywords⟩ := ih read
      obtain ⟨bare, first, rfl⟩ | ⟨entry, keyed, known, rfl⟩ := add_eq_ok added
      · refine ⟨part :: front, back, ⟨by rw [split.whole]; rfl, ?_, split.keyed⟩, ?_, ?_, keywords⟩
        · exact List.forall_mem_cons.2 ⟨bare, split.bare⟩
        · exact fun some => absurd first some
        · rw [positional, List.append_assoc]
          rfl
      · obtain rfl : front = [] := none (put_ne_nil _ _ _)
        refine ⟨[], part :: back, ⟨by rw [split.whole]; rfl, by simp, ?_⟩, fun _ => rfl, positional, ?_⟩
        · exact List.forall_mem_cons.2 ⟨⟨entry, keyed, known⟩, split.keyed⟩
        · rw [keywords, entries, entries, List.filterMap_cons_some keyed]
          rfl

namespace Split

variable {spec : Tool.Spec} {parts front back : List (List Char)} (split : Split spec parts front back)

include split

theorem entries_eq : entries parts = entries back := by
  have none : front.filterMap named? = [] := List.filterMap_eq_nil_iff.2 split.bare
  rw [entries, split.whole, List.filterMap_append, none]
  rfl

theorem positionals_eq : positionals parts = front.map given := by
  have all : front.filter (fun part => (named? part).isNone) = front := by
    refine List.filter_eq_self.2 fun part held => ?_
    rw [split.bare part held]
    rfl
  have none : back.filter (fun part => (named? part).isNone) = [] := by
    refine List.filter_eq_nil_iff.2 fun part held => ?_
    obtain ⟨entry, keyed, _⟩ := split.keyed part held
    simp [keyed]
  rw [positionals, split.whole, List.filter_append, all, none, List.append_nil]

theorem known {key : String} (held : key ∈ (entries parts).names) : key ∈ spec.arguments := by
  rw [split.entries_eq] at held
  obtain ⟨entry, among, rfl⟩ := List.mem_map.1 held
  obtain ⟨part, there, keyed⟩ := List.mem_filterMap.1 among
  obtain ⟨other, same, declared⟩ := split.keyed part there
  obtain rfl := Option.some.inj (keyed.symm.trans same)
  exact declared

theorem part_cases {index : Nat} {part : List Char} (there : parts[index]? = some part) :
    front[index]? = some part ∨ ∃ entry, named? part = some entry ∧ entry ∈ entries parts := by
  rw [split.whole] at there
  by_cases inside : index < front.length
  · rw [List.getElem?_append_left inside] at there
    exact .inl there
  · rw [List.getElem?_append_right (by omega)] at there
    have held := List.mem_of_getElem? there
    obtain ⟨entry, keyed, _⟩ := split.keyed part held
    rw [split.entries_eq]
    exact .inr ⟨entry, keyed, List.mem_filterMap.2 ⟨part, held, keyed⟩⟩

theorem targets_eq : parts.mapIdx (target spec) =
    List.range front.length ++ (entries parts).names.map fun key => spec.arguments.idxOf key := by
  have first : front.mapIdx (target spec) = List.range front.length := by
    refine List.ext_getElem (by simp) fun index inside _ => ?_
    have short : index < front.length := by simpa using inside
    have bare := split.bare front[index] (List.getElem_mem short)
    simp [target, bare]
  have keyed : ∀ shift : Nat, back.mapIdx (fun index => target spec (index + shift)) =
      (entries back).names.map fun key => spec.arguments.idxOf key := by
    have each := split.keyed
    clear split first
    induction back with
    | nil => exact fun _ => rfl
    | cons part rest ih =>
      intro shift
      obtain ⟨entry, keyed, _⟩ := each part List.mem_cons_self
      have later := ih (fun other held => each other (List.mem_cons_of_mem _ held)) (1 + shift)
      have here : target spec (0 + shift) part = spec.arguments.idxOf entry.1 := by
        rw [target, keyed]
        rfl
      rw [List.mapIdx_cons, entries, List.filterMap_cons_some keyed, here]
      simp only [Nat.add_assoc, later]
      rfl
  rw [split.entries_eq, split.whole, List.mapIdx_append, first, keyed]

/-- No two written arguments are meant for one place exactly if no argument is given twice. -/
theorem nodup_targets_iff : (parts.mapIdx (target spec)).Nodup ↔ GivenOnce spec parts := by
  have count : (positionals parts).length = front.length := by rw [split.positionals_eq, List.length_map]
  rw [split.targets_eq, List.nodup_append]
  constructor
  · intro holds
    obtain ⟨_, distinct, apart⟩ := holds
    refine ⟨distinct.of_map, fun key held before => ?_⟩
    rw [count, List.mem_take_iff_idxOf_lt (split.known held)] at before
    exact apart _ (List.mem_range.2 before) _ (List.mem_map_of_mem held) rfl
  · intro once
    refine ⟨List.nodup_range, once.distinct.map_on fun key held other _ same => ?_, fun place inside _ among => ?_⟩
    · exact (List.idxOf_inj (split.known held)).1 same
    · obtain ⟨key, held, rfl⟩ := List.mem_map.1 among
      rintro rfl
      refine once.apart key held ?_
      rw [count, List.mem_take_iff_idxOf_lt (split.known held)]
      exact List.mem_range.1 inside

end Split

/-- If nothing is given behind the run of keywords, each of its names has what is given for it. -/
theorem getElem?_keywordRun {keywords : Table String} {names : List String}
    (left : ∀ name ∈ names.drop (keywordRun keywords names).length, keywords.lookup name = none) (index : Nat) :
    (keywordRun keywords names)[index]? = names[index]?.bind fun name => keywords.lookup name := by
  induction names generalizing index with
  | nil => simp [keywordRun]
  | cons name rest ih =>
    cases found : keywords.lookup name with
    | some value =>
      have run : keywordRun keywords (name :: rest) = value :: keywordRun keywords rest := by
        rw [keywordRun, found]
      rw [run] at left ⊢
      cases index with
      | zero => simp [found]
      | succ index =>
        simp only [List.getElem?_cons_succ]
        exact ih (by simpa using left) index
    | none =>
      have run : keywordRun keywords (name :: rest) = [] := by rw [keywordRun, found]
      rw [run] at left ⊢
      rw [List.getElem?_nil]
      cases there : (name :: rest)[index]? with
      | none => rfl
      | some other => exact (left other (List.mem_of_getElem? there)).symm

theorem values_eq_ok {spec : Tool.Spec} {written : Written} {values : List String}
    (ordered : written.values spec = .ok values) :
    written.positional <+: values ∧ ∀ index, written.positional.length ≤ index →
      values[index]? = spec.arguments[index]?.bind fun name => written.keywords.lookup name := by
  unfold Written.values at ordered
  split at ordered
  next empty =>
    obtain rfl := Except.ok.inj ordered
    refine ⟨List.prefix_rfl, fun index beyond => ?_⟩
    rw [List.getElem?_eq_none beyond, List.isEmpty_iff.1 empty]
    cases spec.arguments[index]? with
    | none => rfl
    | some name => rfl
  next =>
    dsimp only at ordered
    split at ordered
    next complete unskipped =>
      obtain rfl := Except.ok.inj ordered
      refine ⟨List.prefix_append _ _, fun index beyond => ?_⟩
      rw [List.length_append, ← List.drop_drop] at unskipped
      have nothing := fun name held => Option.not_isSome_iff_eq_none.1 (List.filter_eq_nil_iff.1 unskipped name held)
      rw [List.getElem?_append_right beyond, getElem?_keywordRun nothing, List.getElem?_drop]
      congr 2
      omega
    next => cases ordered
    next => cases ordered

section

variable {spec : Tool.Spec} {inner : List Char} {values : List String}

/-- The values of a call that is accepted: by position as far as such arguments go, then by the last keyword. -/
structure Valued (spec : Tool.Spec) (parts : List (List Char)) (values : List String) : Prop where
  first : positionals parts <+: values
  later : ∀ index, (positionals parts).length ≤ index →
    values[index]? = spec.arguments[index]?.bind fun name => (entries parts).reverse.lookup name

theorem boundArguments_eq_ok (bound : boundArguments spec inner = .ok values) :
    ∃ front back, Split spec (splitArguments inner) front back ∧ Valued spec (splitArguments inner) values := by
  unfold boundArguments at bound
  cases read : Written.read spec {} (splitArguments inner) with
  | error misfit =>
    rw [read] at bound
    cases bound
  | ok written =>
    rw [read] at bound
    obtain ⟨front, back, split, _, positional, keywords⟩ := read_eq_ok read
    have table : written.keywords = Table.ofEntries (entries (splitArguments inner)) := by
      rw [keywords, split.entries_eq]
      rfl
    have listed : written.positional = positionals (splitArguments inner) := by
      rw [positional, split.positionals_eq]
      rfl
    obtain ⟨first, later⟩ := values_eq_ok bound
    simp only [table, listed, Table.lookup_ofEntries] at first later
    exact ⟨front, back, split, first, later⟩

theorem GivenOnce.faithful {parts front back : List (List Char)} (once : GivenOnce spec parts)
    (split : Split spec parts front back) (valued : Valued spec parts values) (distinct : spec.arguments.Nodup)
    (short : values.length ≤ spec.arguments.length) : Faithful spec parts values := by
  have count : (positionals parts).length = front.length := by rw [split.positionals_eq, List.length_map]
  have apart {key : String} (held : key ∈ (entries parts).names) : front.length ≤ spec.arguments.idxOf key := by
    rw [← count, ← Nat.not_lt, ← List.mem_take_iff_idxOf_lt (split.known held)]
    exact once.apart key held
  have bound : ∀ (index : Nat) part, parts[index]? = some part →
      values[target spec index part]? = some (given part) := by
    intro index part there
    obtain first | ⟨entry, keyed, among⟩ := split.part_cases there
    · obtain ⟨rest, rfl⟩ := valued.first
      have place : target spec index part = index := by rw [target, split.bare part (List.mem_of_getElem? first)]; rfl
      have early : (positionals parts)[index]? = some (given part) := by
        rw [split.positionals_eq, List.getElem?_map, first]
        rfl
      rw [place, List.getElem?_append_left (List.getElem?_eq_some_iff.1 early).1, early]
    · have held : entry.1 ∈ (entries parts).names := List.mem_map_of_mem among
      have last : (entries parts).reverse.lookup entry.1 = some entry.2 := by
        refine Table.lookup_of_mem ?_ (List.mem_reverse.2 among)
        rw [Table.names, List.map_reverse]
        exact List.nodup_reverse.2 once.distinct
      have place : target spec index part = spec.arguments.idxOf entry.1 := by rw [target, keyed]; rfl
      rw [place, valued.later _ (count ▸ apart held), List.getElem?_idxOf (split.known held), Option.bind_some, last,
        given, keyed]
      rfl
  refine ⟨fun index part there => ?_, bound, ?_⟩
  · exact Nat.lt_of_lt_of_le (List.getElem?_eq_some_iff.1 (bound index part there)).1 short
  · rw [List.perm_ext_iff_of_nodup (split.nodup_targets_iff.2 once) List.nodup_range]
    intro place
    rw [List.mem_range]
    constructor
    · intro among
      obtain ⟨index, inside, rfl⟩ := List.mem_mapIdx.1 among
      exact (List.getElem?_eq_some_iff.1 (bound index _ (List.getElem?_eq_getElem inside))).1
    · intro inside
      rw [split.targets_eq, List.mem_append, List.mem_range]
      by_cases early : place < front.length
      · exact .inl early
      · -- Behind the arguments by position there is a value only where a keyword gives one.
        obtain ⟨name, there, looked⟩ := Option.bind_eq_some_iff.1
          ((valued.later place (by omega)).symm.trans (List.getElem?_eq_getElem inside))
        obtain ⟨bounded, rfl⟩ := List.getElem?_eq_some_iff.1 there
        obtain ⟨before, after, whole, _⟩ := List.lookup_eq_some_iff.1 looked
        have held : (spec.arguments[place], values[place]) ∈ entries parts := by
          rw [← List.mem_reverse, whole]
          simp
        exact .inr (List.mem_map.2 ⟨_, List.mem_map_of_mem held, distinct.idxOf_getElem place bounded⟩)

/-- The written arguments of a call that is accepted: what each argument has, and that everything written is the value
of its argument exactly if no argument is given twice. -/
theorem faithful_iff (distinct : spec.arguments.Nodup) (bound : boundArguments spec inner = .ok values)
    (accepted : spec.accepts values.length = true) :
    Valued spec (splitArguments inner) values ∧
    (Faithful spec (splitArguments inner) values ↔ GivenOnce spec (splitArguments inner)) := by
  obtain ⟨front, back, split, valued⟩ := boundArguments_eq_ok bound
  refine ⟨valued, fun faithful => ?_, fun once => ?_⟩
  · exact split.nodup_targets_iff.1 (faithful.once.nodup_iff.2 List.nodup_range)
  · exact once.faithful split valued distinct (accepts_bounds accepted).2

end

theorem joined_faithful :
    Tool.joined.spec.arguments.Nodup ∧
    boundArguments Tool.joined.spec "1, tail = '3', body=2".toList = .ok ["1", "2", "3"] ∧
    Tool.joined.spec.accepts 3 = true ∧
    Faithful Tool.joined.spec (splitArguments "1, tail = '3', body=2".toList) ["1", "2", "3"] := by
  have bound : boundArguments Tool.joined.spec "1, tail = '3', body=2".toList = .ok ["1", "2", "3"] := rfl
  have once : GivenOnce Tool.joined.spec (splitArguments "1, tail = '3', body=2".toList) :=
    ⟨by decide, by decide⟩
  exact ⟨by decide, bound, by decide, (faithful_iff (by decide) bound (by decide)).2.2 once⟩

/-- Calls that give an argument twice, by position and by keyword or by two keywords, are accepted, and lose a value. -/
theorem argument_given_twice_loses :
    (boundArguments Tool.joined.spec "1, head=2".toList = .ok ["1"] ∧ Tool.joined.spec.accepts 1 = true ∧
      ¬Faithful Tool.joined.spec (splitArguments "1, head=2".toList) ["1"]) ∧
    (boundArguments Tool.joined.spec "head=1, head=2".toList = .ok ["2"] ∧ Tool.joined.spec.accepts 1 = true ∧
      ¬Faithful Tool.joined.spec (splitArguments "head=1, head=2".toList) ["2"]) := by
  have unequal {inner : List Char} {value : String} (two : (splitArguments inner).length = 2) :
      ¬Faithful Tool.joined.spec (splitArguments inner) [value] := by
    intro faithful
    have lengths := faithful.once.length_eq
    rw [List.length_mapIdx, two] at lengths
    cases lengths
  exact ⟨⟨rfl, by decide, unequal rfl⟩, rfl, by decide, unequal rfl⟩

end Parley.Extraction

