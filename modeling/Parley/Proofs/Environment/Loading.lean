import Parley.Environment
import Parley.Proofs.Failing
import Parley.Proofs.Text.Lines

namespace Parley

/-- The working directory has a file of variables of its own, and no null character stands in it. -/
def Files.Furnished (files : Files) : Prop :=
  ∃ text : String, files.find ".env" = .ok (some (.file text)) ∧ '\x00' ∉ text.toList

def Files.defining (text : String) : Files := { entries := [(".env", .file text)] }

theorem Files.find_defining (text : String) : (defining text).find ".env" = .ok (some (.file text)) := by
  have named : Path.names ".env" = [".env"] := by decide +kernel
  have starts : (defining text).start ".env" = [] := by
    change (if Path.isAbsolute ".env" then [] else (Path.names "/").foldl Path.step []) = []
    decide +kernel
  have stepped : Path.step [] ".env" = [".env"] := by decide
  have placed : (defining text).place ".env" = [".env"] := by
    rw [place, named, starts, List.foldl_cons, stepped, List.foldl_nil]
  have short : ¬ Path.pathLimit < (Path.tidy ".env").utf8ByteSize := by decide +kernel
  have entries : (defining text).entries = [(".env", .file text)] := rfl
  have above : (defining text).entryAt? [] = some .directory := by simp [entryAt?, entries, placed]
  have there : (defining text).entryAt? [".env"] = some (.file text) := by simp [entryAt?, entries, placed]
  rw [find, if_neg (by decide +kernel), if_neg short, named, starts, follow, if_pos above, if_neg (by decide +kernel),
    stepped, follow_nil, there]

theorem Files.furnished_defining {text : String} (clean : '\x00' ∉ text.toList) : (defining text).Furnished :=
  ⟨text, find_defining text, clean⟩

namespace Environment

variable {environment : Environment}

theorem mem_of_mem_withoutExport {line : List Char} {c : Char} (held : c ∈ withoutExport line) : c ∈ line := by
  unfold withoutExport at held
  cases exported : Text.afterList? "export ".toList line with
  | none => rwa [exported] at held
  | some rest =>
    rw [exported] at held
    rw [Text.eq_append_of_afterList? exported]
    exact List.mem_append_right _ held

theorem mem_of_definition? {line : String} {entry : String × String} (defines : definition? line = some entry) {c : Char}
    (held : c ∈ entry.1.toList ++ entry.2.toList) : c ∈ line.toList := by
  unfold definition? at defines
  dsimp only at defines
  split at defines
  next => cases defines
  next =>
    obtain ⟨⟨key, value⟩, cut, rfl⟩ := Option.map_eq_some_iff.1 defines
    have within : c ∈ withoutExport (Text.trimList line.toList) := ?_
    · exact Text.mem_of_mem_trimBy (mem_of_mem_withoutExport within)
    rw [Text.eq_append_of_cutList? cut]
    simp only [String.toList_ofList, List.mem_append] at held
    obtain within | within := held
    · exact List.mem_append_left _ (Text.mem_of_mem_trimBy within)
    · exact List.mem_append_right _ (List.mem_cons_of_mem _ (Text.mem_of_mem_trimBy (Text.mem_of_mem_trimBy within)))

theorem isStorable_of_definition? {line : String} {entry : String × String} (defines : definition? line = some entry)
    (clean : '\x00' ∉ line.toList) : isStorable entry = true := by
  have absent : '\x00' ∉ entry.1.toList ++ entry.2.toList := fun held => clean (mem_of_definition? defines held)
  rw [isStorable, Bool.not_eq_true', List.contains_eq_mem]
  exact decide_eq_false absent

theorem define_adds (environment : Environment) {entry : String × String} (storable : isStorable entry = true) :
    ∃ added, environment.define entry = .ok (environment ++ added) := by
  unfold define
  split
  next => exact ⟨[], by rw [List.append_nil]⟩
  next => exact ⟨[entry], rfl⟩

theorem foldlM_define_adds {entries : List (String × String)} (environment : Environment)
    (storable : ∀ entry ∈ entries, isStorable entry = true) :
    ∃ added, entries.foldlM define environment = .ok (environment ++ added) := by
  induction entries generalizing environment with
  | nil => exact ⟨[], by rw [List.append_nil]; rfl⟩
  | cons entry rest ih =>
    obtain ⟨first, defined⟩ := define_adds environment (storable entry List.mem_cons_self)
    obtain ⟨later, folded⟩ := ih (environment ++ first) fun other held => storable other (List.mem_cons_of_mem _ held)
    refine ⟨first ++ later, ?_⟩
    rw [List.foldlM_cons, defined, ← List.append_assoc]
    exact folded

/-- A text without null characters is loaded behind the variables that are set. -/
theorem load_adds (environment : Environment) {text : String} (clean : '\x00' ∉ text.toList) :
    ∃ added, environment.load text = .ok (environment ++ added) := by
  refine foldlM_define_adds environment fun entry held => ?_
  obtain ⟨line, listed, defines⟩ := List.mem_filterMap.1 held
  refine isStorable_of_definition? defines fun within => clean ?_
  obtain ⟨found, split, rfl⟩ := List.mem_map.1 listed
  rw [String.toList_ofList] at within
  obtain none | there := Text.mem_of_mem_linesFrom split within
  · cases none
  · exact there

theorem load_of_single {text name value : String}
    (defines : (Text.lines text).filterMap definition? = [(name, value)]) (named : name ≠ "")
    (free : environment.lookup name = none) (storable : isStorable (name, value) = true) :
    environment.load text = .ok (environment ++ [(name, value)]) := by
  have added : environment.define (name, value) = .ok (environment ++ [(name, value)]) := by
    simp [define, named, free, storable]
  rw [load, defines, List.foldlM_cons, added]
  rfl

theorem loadDefault_of_find (environment : Environment) {files : Files} {text : String}
    (held : files.find ".env" = .ok (some (.file text))) : environment.loadDefault files = environment.load text := by
  have reads : files.text? ".env" = .ok (some (Text.unifyNewlines text)) := by
    rw [Files.text?, held]
    rfl
  have loads : environment.load (Text.unifyNewlines text) = environment.load text := by
    rw [load, load, Text.lines_unifyNewlines]
  have first : [".env"].findSomeM? files.text? = .ok (some (Text.unifyNewlines text)) := by
    rw [List.findSomeM?_cons, reads]
    rfl
  rw [loadDefault, loadFirst, first]
  simpa only [bind, Except.bind] using loads

theorem loadDefault_adds (environment : Environment) {files : Files} (furnished : files.Furnished) :
    ∃ added, environment.loadDefault files = .ok (environment ++ added) := by
  obtain ⟨text, held, clean⟩ := furnished
  rw [loadDefault_of_find environment held]
  exact environment.load_adds clean

theorem value?_append {name : String} (set : (environment.lookup name).isSome = true) (added : Environment) :
    value? (environment ++ added) name = environment.value? name := by
  rw [value?, value?, List.lookup_append]
  cases found : environment.lookup name with
  | none =>
    rw [found] at set
    cases set
  | some value => rfl

theorem isSome_lookup_of_value? {name : String} (filled : (environment.value? name).isSome = true) :
    (environment.lookup name).isSome = true := by
  unfold value? at filled
  cases found : environment.lookup name with
  | none =>
    rw [found] at filled
    cases filled
  | some value => rfl

theorem findSome?_value?_append {before : List String} {name : String}
    (set : ∀ earlier ∈ before, (environment.lookup earlier).isSome = true)
    (filled : (environment.value? name).isSome = true) (added : Environment) (after : List String) :
    (before ++ name :: after).findSome? (value? (environment ++ added)) =
      (before ++ name :: after).findSome? environment.value? := by
  -- Either search ends at the name, if not before, so that what is set of the names behind it does not matter.
  induction before with
  | nil =>
    obtain ⟨value, found⟩ := Option.isSome_iff_exists.1 filled
    rw [List.nil_append, List.findSome?_cons, List.findSome?_cons,
      value?_append (isSome_lookup_of_value? filled), found]
  | cons earlier rest ih =>
    rw [List.cons_append, List.findSome?_cons, List.findSome?_cons, value?_append (set earlier List.mem_cons_self),
      ih fun other held => set other (List.mem_cons_of_mem _ held)]

end Environment

end Parley

