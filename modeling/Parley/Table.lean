namespace Parley

abbrev Table (α : Type) := List (String × α)

namespace Table

variable {α : Type}

/-- Sets an entry: a name already there keeps its place and takes the new value. -/
def put (name : String) (value : α) : Table α → Table α
  | [] => [(name, value)]
  | (other, old) :: rest => if other = name then (name, value) :: rest else (other, old) :: put name value rest

/-- The table of a list of entries, in which the last value of a name counts. -/
def ofEntries (entries : List (String × α)) : Table α :=
  entries.foldl (fun table entry => table.put entry.1 entry.2) []

def names (table : Table α) : List String := table.map Prod.fst

theorem lookup_put_self (name : String) (value : α) (table : Table α) :
    (table.put name value).lookup name = some value := by
  induction table with
  | nil => simp [put]
  | cons entry rest ih =>
    obtain ⟨other, old⟩ := entry
    by_cases same : other = name
    · simp [put, same]
    · have differ : (name == other) = false := by simpa using fun equal => same equal.symm
      simp [put, same, List.lookup_cons, differ, ih]

theorem lookup_put_of_ne {name other : String} (value : α) (table : Table α) (differ : other ≠ name) :
    (table.put name value).lookup other = table.lookup other := by
  have unequal : (other == name) = false := by simpa using differ
  induction table with
  | nil => simp [put, List.lookup_cons, unequal]
  | cons entry rest ih =>
    obtain ⟨key, old⟩ := entry
    by_cases same : key = name
    · subst same
      simp [put, List.lookup_cons, unequal]
    · simp only [put, same, if_false, List.lookup_cons, ih]

theorem put_of_not_mem {name : String} (value : α) {table : Table α} (absent : name ∉ table.names) :
    table.put name value = table ++ [(name, value)] := by
  induction table with
  | nil => rfl
  | cons entry rest ih =>
    obtain ⟨key, old⟩ := entry
    simp only [names, List.map_cons, List.mem_cons, not_or] at absent
    have differ : key ≠ name := fun same => absent.1 same.symm
    simp only [put, differ, if_false, List.cons_append, List.cons.injEq, true_and]
    exact ih absent.2

theorem lookup_of_mem {table : Table α} {name : String} {value : α} (distinct : table.names.Nodup)
    (held : (name, value) ∈ table) : table.lookup name = some value := by
  induction table with
  | nil => cases held
  | cons entry rest ih =>
    obtain ⟨key, old⟩ := entry
    obtain ⟨absent, others⟩ := List.nodup_cons.1 distinct
    obtain same | later := List.mem_cons.1 held
    · obtain ⟨rfl, rfl⟩ := Prod.mk.inj same
      simp
    · have differ : (name == key) = false := by
        simp only [beq_eq_false_iff_ne]
        rintro rfl
        exact absent (List.mem_map.2 ⟨_, later, rfl⟩)
      rw [List.lookup_cons, differ]
      exact ih others later

theorem lookup_of_not_mem {table : Table α} {name : String} (absent : name ∉ table.names) :
    table.lookup name = none := by
  rw [List.lookup_eq_none_iff]
  intro entry held
  have differ : name ≠ entry.1 := by
    rintro rfl
    exact absent (List.mem_map.2 ⟨_, held, rfl⟩)
  simpa using differ

theorem lookup_eq_none_iff {table : Table α} {name : String} : table.lookup name = none ↔ name ∉ table.names := by
  refine ⟨fun none held => ?_, lookup_of_not_mem⟩
  obtain ⟨entry, among, rfl⟩ := List.mem_map.1 held
  have differ := List.lookup_eq_none_iff.1 none entry among
  simp at differ

theorem lookup_filter {keep : String → Bool} {name : String} (kept : keep name = true) (table : Table α) :
    List.lookup name (table.filter fun entry => keep entry.1) = table.lookup name := by
  induction table with
  | nil => rfl
  | cons entry rest ih =>
    obtain ⟨key, value⟩ := entry
    cases keeps : keep key with
    | true => simp [keeps, List.lookup_cons, ih]
    | false =>
      have differ : (name == key) = false := by
        simp only [beq_eq_false_iff_ne]
        rintro rfl
        cases kept.symm.trans keeps
      simp [keeps, List.lookup_cons, differ, ih]

theorem foldl_put_of_nodup {entries table : Table α} (distinct : (table ++ entries).names.Nodup) :
    entries.foldl (fun table entry => table.put entry.1 entry.2) table = table ++ entries := by
  induction entries generalizing table with
  | nil => simp
  | cons entry rest ih =>
    have absent : entry.1 ∉ table.names := by
      intro held
      simp only [names, List.map_append, List.map_cons, List.nodup_append] at distinct
      exact distinct.2.2 _ held _ List.mem_cons_self rfl
    rw [List.foldl_cons, put_of_not_mem entry.2 absent, ih]
    · simp
    · simpa using distinct

theorem ofEntries_of_nodup {entries : List (String × α)} (distinct : (names entries).Nodup) :
    ofEntries entries = entries :=
  foldl_put_of_nodup (by simpa using distinct)

theorem names_put_of_mem {name : String} (value : α) {table : Table α} (held : name ∈ table.names) :
    (table.put name value).names = table.names := by
  induction table with
  | nil => cases held
  | cons entry rest ih =>
    obtain ⟨key, old⟩ := entry
    by_cases same : key = name
    · simp [put, same, names]
    · have later : name ∈ names rest := by
        rcases List.mem_cons.1 held with first | later
        · exact absurd first.symm same
        · exact later
      have kept : (put name value rest).map Prod.fst = rest.map Prod.fst := ih later
      simp [put, same, names, kept]

/-- Under each name stands the last value that was put there, or the one that the table had before. -/
theorem lookup_foldl_put (name : String) (entries table : Table α) :
    (entries.foldl (fun table entry => table.put entry.1 entry.2) table).lookup name =
      (entries.reverse.lookup name).or (table.lookup name) := by
  induction entries generalizing table with
  | nil => simp
  | cons entry rest ih =>
    obtain ⟨key, value⟩ := entry
    have last : (rest.reverse ++ [(key, value)]).lookup name =
        (rest.reverse.lookup name).or (List.lookup name [(key, value)]) := List.lookup_append
    rw [List.foldl_cons, ih, List.reverse_cons, last, Option.or_assoc]
    congr 1
    by_cases same : name = key
    · rw [same, lookup_put_self]
      simp
    · have differ : (name == key) = false := by simpa using same
      rw [lookup_put_of_ne value table same]
      simp [List.lookup_cons, differ]

theorem lookup_ofEntries (name : String) (entries : List (String × α)) :
    (ofEntries entries).lookup name = entries.reverse.lookup name :=
  (lookup_foldl_put name entries []).trans (Option.or_none ..)

theorem nodup_ofEntries (entries : List (String × α)) : (ofEntries entries).names.Nodup := by
  have folds (table : Table α) (distinct : table.names.Nodup) :
      (names (entries.foldl (fun table entry => table.put entry.1 entry.2) table)).Nodup := by
    induction entries generalizing table with
    | nil => exact distinct
    | cons entry rest ih =>
      apply ih
      dsimp only
      by_cases held : entry.1 ∈ table.names
      · rw [names_put_of_mem entry.2 held]
        exact distinct
      · rw [put_of_not_mem entry.2 held]
        have apart : ∀ name ∈ table.names, name ≠ entry.1 := fun name there same => held (same ▸ there)
        simpa [names, List.nodup_append] using ⟨distinct, by simpa [names] using apart⟩
  exact folds [] List.nodup_nil

end Table

end Parley
