import Parley.Proofs.Environment.Loading

namespace Parley

/-- Nothing, something other than a file, or a file without null characters is what a path leads to. -/
def Files.Legible (files : Files) (path : String) : Prop :=
  ∃ found, files.find path = .ok found ∧ ∀ text : String, found = some (.file text) → '\x00' ∉ text.toList

/-- The first of the paths that leads to a file leads to one with this text. -/
inductive Files.FirstFile (files : Files) : List String → String → Prop
  | here {path : String} {rest : List String} {text : String} (held : files.find path = .ok (some (.file text))) :
      FirstFile files (path :: rest) text
  | later {path : String} {rest : List String} {text : String}
      (none : ∀ other : String, files.find path ≠ .ok (some (.file other))) (after : FirstFile files rest text) :
      FirstFile files (path :: rest) text

theorem Files.FirstFile.unique {files : Files} {paths : List String} {text other : String}
    (first : files.FirstFile paths text) (second : files.FirstFile paths other) : text = other := by
  induction first with
  | here held =>
    cases second with
    | here heldToo =>
      obtain ⟨⟩ := held.symm.trans heldToo
      rfl
    | later none _ => exact absurd held (none _)
  | later none _ ih =>
    cases second with
    | here held => exact absurd held (none _)
    | later _ after => exact ih after

theorem Files.FirstFile.clean {files : Files} {paths : List String} {text : String} (first : files.FirstFile paths text)
    (legible : ∀ path ∈ paths, files.Legible path) : '\x00' ∉ text.toList := by
  induction first with
  | here held =>
    obtain ⟨found, finds, plain⟩ := legible _ List.mem_cons_self
    exact plain _ (Except.ok.inj (finds.symm.trans held))
  | later _ _ ih => exact ih fun path among => legible path (List.mem_cons_of_mem _ among)

theorem Files.text?_of_find_ne {files : Files} {path : String} (legible : files.Legible path)
    (none : ∀ text : String, files.find path ≠ .ok (some (.file text))) : files.text? path = .ok Option.none := by
  obtain ⟨found, finds, -⟩ := legible
  rw [Files.text?, finds]
  cases found with
  | none => rfl
  | some entry =>
    cases entry with
    | file text => exact absurd finds (none text)
    | directory | device => rfl

namespace Environment

/-- A line without blanks around it, cut at its first equals sign. The word `export` and one space may come first; without
them it is no comment. -/
inductive Assigns : List Char → List Char → List Char → Prop
  | plain {left right : List Char} (bare : ¬ "export ".toList <+: left ++ '=' :: right) (inked : left.head? ≠ some '#')
      (first : '=' ∉ left) : Assigns (left ++ '=' :: right) left right
  | exported {left right : List Char} (first : '=' ∉ left) :
      Assigns ("export ".toList ++ (left ++ '=' :: right)) left right

/-- A line says that a key has a value: the key stands left of the equals sign, and the value right of it within blanks and
within quotes. -/
def Defines (line name value : String) : Prop :=
  ∃ left right, Assigns (Text.trimList line.toList) left right ∧ name.toList = Text.trimList left ∧
    value.toList = Text.trimBy isValueQuote (Text.trimList right)

/-- The first line of a text that gives a value to a key gives it this one. -/
def FirstDefines (text name value : String) : Prop :=
  ∃ before line after, Text.lines text = before ++ line :: after ∧ Defines line name value ∧
    ∀ earlier ∈ before, ∀ other, ¬ Defines earlier name other

theorem cutList?_append {left : List Char} (first : '=' ∉ left) (right : List Char) :
    Text.cutList? '=' (left ++ '=' :: right) = some (left, right) := by
  induction left with
  | nil => simp [Text.cutList?]
  | cons c rest ih =>
    have differ : c ≠ '=' := fun same => first (same ▸ List.mem_cons_self)
    rw [List.cons_append, Text.cutList?, if_neg differ, ih fun held => first (List.mem_cons_of_mem _ held)]
    rfl

theorem not_mem_of_cutList? {cs left right : List Char} (cut : Text.cutList? '=' cs = some (left, right)) : '=' ∉ left := by
  induction cs generalizing left with
  | nil => cases cut
  | cons c rest ih =>
    rw [Text.cutList?] at cut
    split at cut
    next =>
      obtain ⟨rfl, rfl⟩ := Prod.mk.inj (Option.some.inj cut)
      exact List.not_mem_nil
    next differ =>
      obtain ⟨⟨before, after⟩, found, same⟩ := Option.map_eq_some_iff.1 cut
      obtain ⟨rfl, rfl⟩ := Prod.mk.inj same
      exact fun held => (List.mem_cons.1 held).elim (fun same => differ same.symm) (ih found)

theorem withoutExport_of_bare {line : List Char} (bare : ¬ "export ".toList <+: line) : withoutExport line = line := by
  rw [withoutExport]
  cases found : Text.afterList? "export ".toList line with
  | none => rfl
  | some rest => exact absurd ⟨rest, (Text.eq_append_of_afterList? found).symm⟩ bare

theorem withoutExport_append (rest : List Char) : withoutExport ("export ".toList ++ rest) = rest := by
  rw [withoutExport, Text.afterList?_append]
  rfl

theorem assigns_iff {line left right : List Char} :
    Assigns line left right ↔
      line.head? ≠ some '#' ∧ Text.cutList? '=' (withoutExport line) = some (left, right) := by
  constructor
  · intro assigns
    cases assigns with
    | plain bare inked first =>
      refine ⟨?_, by rw [withoutExport_of_bare bare, cutList?_append first]⟩
      cases left with
      | nil => simp
      | cons c rest => exact inked
    | exported first => exact ⟨by simp, by rw [withoutExport_append, cutList?_append first]⟩
  · rintro ⟨inked, cut⟩
    have first := not_mem_of_cutList? cut
    have parts := Text.eq_append_of_cutList? cut
    by_cases marked : "export ".toList <+: line
    · obtain ⟨rest, rfl⟩ := marked
      rw [withoutExport_append] at parts
      rw [parts]
      exact .exported first
    · rw [withoutExport_of_bare marked] at parts
      subst parts
      refine .plain marked ?_ first
      cases left with
      | nil => simp
      | cons c rest => exact inked

theorem definition?_eq_some_iff {line name value : String} :
    definition? line = some (name, value) ↔ Defines line name value := by
  rw [definition?]
  dsimp only
  constructor
  · intro defines
    split at defines
    next => cases defines
    next inked =>
      obtain ⟨⟨left, right⟩, cut, same⟩ := Option.map_eq_some_iff.1 defines
      obtain ⟨rfl, rfl⟩ := Prod.mk.inj same
      exact ⟨left, right, assigns_iff.2 ⟨by simp_all, cut⟩, String.toList_ofList, String.toList_ofList⟩
  · rintro ⟨left, right, assigns, named, valued⟩
    have filled : Text.trimList line.toList ≠ [] := by
      intro none
      rw [none] at assigns
      cases (assigns_iff.1 assigns).2
    obtain ⟨inked, cut⟩ := assigns_iff.1 assigns
    rw [if_neg (by simp [filled, inked]), cut, Option.map_some, ← named, ← valued, String.ofList_toList,
      String.ofList_toList]

theorem firstDefines_iff {text name value : String} :
    FirstDefines text name value ↔ ((Text.lines text).filterMap definition?).lookup name = some value := by
  rw [List.lookup_eq_some_iff]
  constructor
  · rintro ⟨before, line, after, cut, defines, others⟩
    refine ⟨before.filterMap definition?, after.filterMap definition?, ?_, ?_⟩
    · rw [cut, List.filterMap_append, List.filterMap_cons, definition?_eq_some_iff.2 defines]
    · rintro ⟨key, other⟩ held
      obtain ⟨earlier, among, defined⟩ := List.mem_filterMap.1 held
      rw [bne_iff_ne]
      rintro rfl
      exact others earlier among other (definition?_eq_some_iff.1 defined)
  · rintro ⟨entries, rest, found, apart⟩
    obtain ⟨first, second, cut, defined, found⟩ := List.filterMap_eq_append_iff.1 found
    obtain ⟨silent, line, after, rfl, none, defines, _⟩ := List.filterMap_eq_cons_iff.1 found
    refine ⟨first ++ silent, line, after, by rw [cut, List.append_assoc], definition?_eq_some_iff.1 defines, ?_⟩
    intro earlier among other too
    have gives := definition?_eq_some_iff.2 too
    obtain early | late := List.mem_append.1 among
    · have held : (name, other) ∈ entries := defined ▸ List.mem_filterMap.2 ⟨earlier, early, gives⟩
      simpa using apart _ held
    · cases (none earlier late).symm.trans gives

variable {environment loaded : Environment}

theorem lookup_define {key value : String} (defined : environment.define (key, value) = .ok loaded) (name : String) :
    loaded.lookup name =
      (environment.lookup name).or (if name = "" then none else List.lookup name [(key, value)]) := by
  have alone (differ : name ≠ key) : List.lookup name [(key, value)] = none := by
    rw [List.lookup_cons, beq_false_of_ne differ]
    rfl
  unfold define at defined
  split at defined
  next kept =>
    obtain rfl := Except.ok.inj defined
    by_cases same : name = key
    · subst same
      rw [Bool.or_eq_true, Option.isSome_iff_exists] at kept
      obtain empty | ⟨old, set⟩ := kept
      · rw [if_pos (String.isEmpty_iff.1 empty), Option.or_none]
      · rw [set, Option.some_or]
    · rw [alone same, ite_self, Option.or_none]
  next free =>
    split at defined
    next =>
      obtain rfl := Except.ok.inj defined
      rw [List.lookup_append]
      by_cases same : name = key
      · subst same
        rw [if_neg fun empty => free (by simp [empty])]
      · rw [alone same, ite_self]
    next => cases defined

/-- Of entries that are added one after the other, the first one of a name counts, unless that name was set before. -/
theorem lookup_foldlM_define {entries : List (String × String)} (folded : entries.foldlM define environment = .ok loaded)
    (name : String) :
    loaded.lookup name = (environment.lookup name).or (if name = "" then none else entries.lookup name) := by
  induction entries generalizing environment with
  | nil =>
    obtain rfl := Except.ok.inj folded
    simp
  | cons entry rest ih =>
    rw [List.foldlM_cons] at folded
    obtain ⟨next, defined, folded⟩ := bind_eq_ok.1 folded
    have parted : (entry :: rest).lookup name = (List.lookup name [entry]).or (rest.lookup name) := by
      rw [← List.lookup_append, List.singleton_append]
    rw [ih folded, lookup_define defined, parted]
    split
    · rw [Option.or_none, Option.or_none]
    · rw [Option.or_assoc]

theorem foldlM_define_of_set {entries : List (String × String)}
    (set : ∀ entry ∈ entries, entry.1 = "" ∨ (environment.lookup entry.1).isSome = true) :
    entries.foldlM define environment = .ok environment := by
  induction entries with
  | nil => rfl
  | cons entry rest ih =>
    have kept : environment.define entry = .ok environment := by
      rw [define, if_pos]
      simpa using set entry List.mem_cons_self
    rw [List.foldlM_cons, kept]
    exact ih fun other held => set other (List.mem_cons_of_mem _ held)

/-- What has been loaded once is not loaded again. -/
theorem load_of_load {text : String} (loads : environment.load text = .ok loaded) : loaded.load text = .ok loaded := by
  refine foldlM_define_of_set fun entry held => ?_
  by_cases empty : entry.1 = ""
  · exact .inl empty
  · refine .inr ?_
    rw [lookup_foldlM_define loads, if_neg empty, Option.isSome_or, Bool.or_eq_true]
    exact .inr (List.lookup_isSome_iff.2 ⟨entry, held, beq_self_eq_true _⟩)

variable {files : Files} {paths : List String}

theorem findSomeM?_of_firstFile {text : String} (first : files.FirstFile paths text)
    (legible : ∀ path ∈ paths, files.Legible path) :
    paths.findSomeM? files.text? = .ok (some (Text.unifyNewlines text)) := by
  induction first with
  | here held =>
    rw [List.findSomeM?_cons, Files.text?, held]
    rfl
  | later none _ ih =>
    rw [List.findSomeM?_cons, Files.text?_of_find_ne (legible _ List.mem_cons_self) none]
    exact ih fun path among => legible path (List.mem_cons_of_mem _ among)

theorem findSomeM?_of_no_file (none : ∀ text, ¬ files.FirstFile paths text)
    (legible : ∀ path ∈ paths, files.Legible path) : paths.findSomeM? files.text? = .ok Option.none := by
  induction paths with
  | nil => rfl
  | cons path rest ih =>
    have other (text : String) : files.find path ≠ .ok (some (.file text)) := fun held => none text (.here held)
    rw [List.findSomeM?_cons, Files.text?_of_find_ne (legible path List.mem_cons_self) other]
    exact ih (fun text first => none text (.later other first)) fun path among =>
      legible path (List.mem_cons_of_mem _ among)

theorem loadFirst_of_firstFile {text : String} (first : files.FirstFile paths text)
    (legible : ∀ path ∈ paths, files.Legible path) (environment : Environment) :
    environment.loadFirst files paths = environment.load text := by
  have loads : environment.load (Text.unifyNewlines text) = environment.load text := by
    rw [load, load, Text.lines_unifyNewlines]
  rw [loadFirst, findSomeM?_of_firstFile first legible]
  simpa only [bind, Except.bind] using loads

theorem loadFirst_of_no_file (none : ∀ text, ¬ files.FirstFile paths text)
    (legible : ∀ path ∈ paths, files.Legible path) (environment : Environment) :
    environment.loadFirst files paths = .ok environment := by
  rw [loadFirst, findSomeM?_of_no_file none legible]
  rfl

/-- What a load comes to depends on the first file alone. -/
theorem loadFirst_congr {others : Files} {otherPaths : List String} (legible : ∀ path ∈ paths, files.Legible path)
    (legibleToo : ∀ path ∈ otherPaths, others.Legible path)
    (same : ∀ text, others.FirstFile otherPaths text ↔ files.FirstFile paths text) (environment : Environment) :
    environment.loadFirst others otherPaths = environment.loadFirst files paths := by
  by_cases some : ∃ text, files.FirstFile paths text
  · obtain ⟨text, first⟩ := some
    rw [loadFirst_of_firstFile first legible, loadFirst_of_firstFile ((same text).2 first) legibleToo]
  · have none (text : String) : ¬ files.FirstFile paths text := fun first => some ⟨text, first⟩
    rw [loadFirst_of_no_file none legible,
      loadFirst_of_no_file (fun text first => none text ((same text).1 first)) legibleToo]

/-- A load from paths at which it can look succeeds, and a variable is then set to what it was set to before, or else to what
the first file defines first. -/
theorem exists_loadFirst (legible : ∀ path ∈ paths, files.Legible path) (environment : Environment) :
    ∃ loaded, environment.loadFirst files paths = .ok loaded ∧ loaded.loadFirst files paths = .ok loaded ∧
      ∀ name value, loaded.lookup name = some value ↔
        environment.lookup name = some value ∨ environment.lookup name = none ∧ name ≠ "" ∧
          ∃ text, files.FirstFile paths text ∧ FirstDefines text name value := by
  by_cases some : ∃ text, files.FirstFile paths text
  · obtain ⟨text, first⟩ := some
    obtain ⟨added, loads⟩ := environment.load_adds (first.clean legible)
    refine ⟨environment ++ added, ?_, ?_, fun name value => ?_⟩
    · rw [loadFirst_of_firstFile first legible, loads]
    · rw [loadFirst_of_firstFile first legible, load_of_load loads]
    · have told : (∃ text, files.FirstFile paths text ∧ FirstDefines text name value) ↔ FirstDefines text name value :=
        ⟨fun ⟨other, firstToo, defines⟩ => first.unique firstToo ▸ defines, fun defines => ⟨text, first, defines⟩⟩
      rw [lookup_foldlM_define loads, told, firstDefines_iff, Option.or_eq_some_iff]
      by_cases empty : name = ""
      · simp [empty]
      · simp [empty]
  · have none (text : String) : ¬ files.FirstFile paths text := fun first => some ⟨text, first⟩
    refine ⟨environment, loadFirst_of_no_file none legible _, loadFirst_of_no_file none legible _, fun name value => ?_⟩
    simp [none]

/-- Loading from paths of which each leads to nothing, to something other than a file, or to a file without null characters:
it succeeds; every variable that was set keeps its value; the others that are then set are those that a line of the first file
defines, with the value of the first such line; no other file matters; and loading again changes nothing. -/
theorem loadFirst_only_adds (legible : ∀ path ∈ paths, files.Legible path) (environment : Environment) :
    ∃ loaded, environment.loadFirst files paths = .ok loaded ∧
      (∀ name value, environment.lookup name = some value → loaded.lookup name = some value) ∧
      (∀ name value, environment.lookup name = none →
        (loaded.lookup name = some value ↔
          name ≠ "" ∧ ∃ text, files.FirstFile paths text ∧ FirstDefines text name value)) ∧
      (∀ (others : Files) (otherPaths : List String), (∀ path ∈ otherPaths, others.Legible path) →
        (∀ text, others.FirstFile otherPaths text ↔ files.FirstFile paths text) →
          environment.loadFirst others otherPaths = .ok loaded) ∧
      loaded.loadFirst files paths = .ok loaded := by
  obtain ⟨loaded, loads, again, found⟩ := exists_loadFirst legible environment
  refine ⟨loaded, loads, fun name value set => (found name value).2 (.inl set), fun name value free => ?_,
    fun others otherPaths legibleToo same => ?_, again⟩
  · rw [found, free]
    simp
  · rw [loadFirst_congr legible legibleToo same, loads]

def twice : String := "# keys\n\nexport B = 'two' \nA=one\nB=three"

def furnished : Files := { entries := [("notes", .directory), (".env", .file twice), ("more", .file "C=four")] }

theorem furnished_firstFile : furnished.FirstFile ["none", "notes", ".env", "more"] twice := by
  have nothing : furnished.find "none" = .ok none := by rfl
  have directory : furnished.find "notes" = .ok (some .directory) := by rfl
  exact .later (by simp [nothing]) (.later (by simp [directory]) (.here rfl))

/-- Behind a path that leads to nothing and one that leads to a directory, the first file gives the variable that is not set
the first of two values. -/
theorem furnished_only_adds :
    (∀ path ∈ ["none", "notes", ".env", "more"], furnished.Legible path) ∧
      ∃ loaded : Environment, loadFirst [("A", "zero")] furnished ["none", "notes", ".env", "more"] = .ok loaded ∧
        loaded.lookup "A" = some "zero" ∧ loaded.lookup "B" = some "two" ∧ loaded.lookup "C" ≠ some "four" := by
  have legible : ∀ path ∈ ["none", "notes", ".env", "more"], furnished.Legible path := by
    simp only [List.forall_mem_cons, List.not_mem_nil, false_imp_iff, implies_true, and_true]
    exact ⟨⟨none, rfl, by simp⟩, ⟨some .directory, rfl, by simp⟩,
      ⟨some (.file twice), rfl, by rintro _ ⟨⟩; decide⟩, ⟨some (.file "C=four"), rfl, by rintro _ ⟨⟩; decide⟩⟩
  obtain ⟨loaded, loads, kept, added, -⟩ := loadFirst_only_adds legible [("A", "zero")]
  refine ⟨legible, loaded, loads, kept "A" "zero" rfl, ?_, fun foreign => ?_⟩
  · exact (added "B" "two" rfl).2 ⟨by decide, twice, furnished_firstFile, firstDefines_iff.2 (by decide +kernel)⟩
  · obtain ⟨-, text, first, defines⟩ := (added "C" "four" rfl).1 foreign
    rw [first.unique furnished_firstFile, firstDefines_iff] at defines
    revert defines
    decide +kernel

end Environment

end Parley

