import Parley.Proofs.Environment.Loading
import Parley.Vendor.Catalogue

/-!
Where settings come from: from the caller, else from the first variable of the setting that is not empty, else from what
stands for it. A variable that is set should win over the file of variables. The main result says that it does, except where
a setting has another variable that goes first, is not set and can be defined by the file.
-/

namespace Parley

inductive Setting where
  | apiKey
  | model
  | url
  | version
  deriving DecidableEq, Repr

namespace Setting

def of (setting : Setting) (settings : Settings) : String :=
  match setting with
  | apiKey => settings.apiKey
  | model => settings.model
  | url => settings.url
  | version => settings.version

def sources (setting : Setting) (vendor : Vendor) : List String :=
  match setting, vendor with
  | apiKey, vendor => vendor.defaults.keyVariables
  | model, vendor => [vendor.defaults.modelVariable]
  | url, vendor => [vendor.defaults.urlVariable]
  | version, .claude => [Vendor.versionVariable]
  | version, _ => []

def fallback (setting : Setting) (vendor : Vendor) : String :=
  match setting, vendor with
  | apiKey, _ => ""
  | model, vendor => vendor.defaults.model
  | url, vendor => vendor.defaults.url
  | version, .claude => Vendor.Claude.defaultVersion
  | version, _ => ""

def changed? (setting : Setting) (override : Override) : Option String :=
  match setting, override with
  | apiKey, .apiKey value => some value
  | url, .url value => some value
  | version, .version value => some value
  | _, _ => none

def named? (setting : Setting) (chosen : Option String) : Option String :=
  match setting with
  | model => chosen.filter fun name => !name.isEmpty
  | _ => none

def told? (setting : Setting) (environment : Environment) (vendor : Vendor) : Option String :=
  (setting.sources vendor).findSome? environment.value?

/-- Some variable of a setting is not empty. -/
def Filled (setting : Setting) (environment : Environment) (vendor : Vendor) : Prop :=
  ∃ source ∈ setting.sources vendor, (environment.value? source).isSome = true

/-- Some variable of a setting is not empty, and all that go before it are set. -/
def Decided (setting : Setting) (environment : Environment) (vendor : Vendor) : Prop :=
  ∃ before source after, setting.sources vendor = before ++ source :: after ∧
    (∀ earlier ∈ before, (environment.lookup earlier).isSome = true) ∧ (environment.value? source).isSome = true

/-- Whatever the file of variables defines and whatever the caller gives, a setting comes out the same. -/
def Fixed (setting : Setting) (environment : Environment) (name : String) : Prop :=
  ∀ (chosen : Option String) (overrides : List Override) (files others : Files), files.Furnished → others.Furnished →
    ∀ settings alternative, Settings.ofSurroundings environment files name chosen overrides = .ok settings →
      Settings.ofSurroundings environment others name chosen overrides = .ok alternative →
        setting.of settings = setting.of alternative

variable {setting : Setting} {environment : Environment} {vendor : Vendor}

theorem isSome_told?_iff : (setting.told? environment vendor).isSome = true ↔ setting.Filled environment vendor :=
  List.findSome?_isSome_iff

theorem Filled.append (filled : setting.Filled environment vendor) (added : Environment) :
    setting.Filled (environment ++ added) vendor := by
  obtain ⟨source, among, holds⟩ := filled
  refine ⟨source, among, ?_⟩
  rw [environment.value?_append (Environment.isSome_lookup_of_value? holds)]
  exact holds

/-- Where what is set decides on a setting, variables that are added behind change nothing. -/
theorem Decided.told?_append (decided : setting.Decided environment vendor) (added : Environment) :
    setting.told? (environment ++ added) vendor = setting.told? environment vendor := by
  obtain ⟨before, source, after, among, set, filled⟩ := decided
  rw [told?, told?, among]
  exact Environment.findSome?_value?_append set filled added after

theorem told?_of_single {source : String} (single : setting.sources vendor = [source]) :
    setting.told? environment vendor = environment.value? source := by
  rw [told?, single, List.findSome?_singleton]

theorem decided_of_single {source : String} (single : setting.sources vendor = [source])
    (filled : setting.Filled environment vendor) : setting.Decided environment vendor := by
  obtain ⟨other, among, holds⟩ := filled
  rw [single, List.mem_singleton] at among
  subst among
  exact ⟨[], other, [], single, by simp, holds⟩

/-- What decides on a setting leaves the first of its variables to be set. -/
theorem Decided.isSome_lookup {first : String} {rest : List String} (decided : setting.Decided environment vendor)
    (listed : setting.sources vendor = first :: rest) : (environment.lookup first).isSome = true := by
  obtain ⟨before, source, after, among, set, filled⟩ := decided
  cases before with
  | nil =>
    obtain ⟨rfl, rfl⟩ := List.cons.inj (listed.symm.trans among)
    exact Environment.isSome_lookup_of_value? filled
  | cons earlier before =>
    obtain ⟨rfl, rfl⟩ := List.cons.inj (listed.symm.trans among)
    exact set _ List.mem_cons_self

/-- What is set decides on each setting that has a variable that is not empty, except for the key of the one vendor that has
two variables for it. -/
theorem decided_iff (filled : setting.Filled environment vendor) : setting.Decided environment vendor ↔
    ¬ (vendor = .gemini ∧ setting = apiKey ∧ environment.lookup "GEMINI_API_KEY" = none) := by
  constructor
  · rintro decided ⟨rfl, rfl, free⟩
    have set := decided.isSome_lookup rfl
    rw [free] at set
    cases set
  · intro otherwise
    cases setting with
    | model => exact decided_of_single rfl filled
    | url => exact decided_of_single rfl filled
    | version =>
      cases vendor with
      | claude => exact decided_of_single rfl filled
      | _ => obtain ⟨_, ⟨⟩, _⟩ := filled
    | apiKey =>
      cases vendor with
      | gemini =>
        -- The one key with two variables: the one that goes first is set, so neither can be outranked.
        have first : (environment.lookup "GEMINI_API_KEY").isSome = true :=
          Option.isSome_iff_ne_none.2 fun free => otherwise ⟨rfl, rfl, free⟩
        obtain ⟨source, among, holds⟩ := filled
        obtain rfl | later := List.mem_cons.1 among
        · exact ⟨[], _, ["GOOGLE_API_KEY"], rfl, by simp, holds⟩
        · obtain rfl := List.mem_singleton.1 later
          exact ⟨["GEMINI_API_KEY"], _, [], rfl, by simpa using first, holds⟩
      | _ => exact decided_of_single rfl filled

end Setting

variable {setting : Setting} {environment : Environment} {vendor : Vendor} {name : String} {chosen : Option String}
  {overrides : List Override} {settings result : Settings} {failure : Failure}

theorem Setting.of_apply (setting : Setting) {override : Override}
    (applied : Override.apply settings override = .ok result) :
    setting.of result = (setting.changed? override).getD (setting.of settings) := by
  cases override <;> cases applied <;> cases setting <;> rfl

/-- After a run of changes, a setting has the value of the last change to it. -/
theorem Setting.of_foldlM_apply (setting : Setting) (folded : overrides.foldlM Override.apply settings = .ok result) :
    setting.of result = (overrides.reverse.findSome? setting.changed?).getD (setting.of settings) := by
  induction overrides generalizing settings with
  | nil =>
    cases folded
    rfl
  | cons override rest ih =>
    obtain ⟨middle, applied, later⟩ := bind_eq_ok.1 (List.foldlM_cons.symm.trans folded)
    rw [ih later, of_apply setting applied, List.reverse_cons, List.findSome?_append, Option.getD_or,
      List.findSome?_singleton]

theorem Override.apply_eq_error_iff {override : Override} (settings others : Settings) :
    apply settings override = .error failure ↔ apply others override = .error failure := by
  cases override <;> simp [apply]

theorem Override.foldlM_apply_eq_error (settings others : Settings)
    (failed : overrides.foldlM apply settings = .error failure) : overrides.foldlM apply others = .error failure := by
  -- The two runs come to different settings, so the induction is for all of them.
  induction overrides generalizing settings others with
  | nil => cases failed
  | cons override rest ih =>
    rw [List.foldlM_cons] at failed ⊢
    obtain now | ⟨middle, applied, later⟩ := bind_eq_error.1 failed
    · exact bind_eq_error.2 (.inl ((apply_eq_error_iff settings others).1 now))
    · cases stepped : apply others override with
      | error other => cases applied.symm.trans ((apply_eq_error_iff others settings).1 stepped)
      | ok found => exact ih middle found later

def Settings.starting (environment : Environment) (vendor : Vendor) (chosen : Option String) (key : String) : Settings where
  vendor := vendor.name
  apiKey := key
  model := ((chosen.filter fun name => !name.isEmpty).or (environment.value? vendor.defaults.modelVariable)).getD
    vendor.defaults.model
  url := (environment.value? vendor.defaults.urlVariable).getD vendor.defaults.url
  version := vendor.version environment

theorem Settings.ofEnvironment_of_resolve (resolved : Vendor.resolve name = .ok vendor) :
    ofEnvironment environment name chosen overrides =
      match Setting.apiKey.told? environment vendor with
      | none => .error (.configuration vendor.name "API key" (vendor.defaults.keyVariables.headD ""))
      | some key => overrides.foldlM Override.apply (starting environment vendor chosen key) := by
  rw [ofEnvironment, resolved]
  rfl

/-- Before any change, each setting is what the name of the model gives, else what the environment gives, else what stands for
it. -/
theorem Setting.of_starting (setting : Setting) {key : String} (found : apiKey.told? environment vendor = some key) :
    setting.of (.starting environment vendor chosen key) =
      ((setting.named? chosen).or (setting.told? environment vendor)).getD (setting.fallback vendor) := by
  cases setting with
  | apiKey =>
    rw [found]
    rfl
  | model =>
    rw [told?_of_single rfl]
    rfl
  | url =>
    rw [told?_of_single rfl]
    rfl
  | version =>
    cases vendor with
    | claude =>
      rw [told?_of_single rfl]
      rfl
    | _ => rfl

/-- A setting is the last change to it, else what the name of the model gives, else what the environment gives, else what
stands for it. -/
theorem Setting.of_ofEnvironment (setting : Setting) (resolved : Vendor.resolve name = .ok vendor)
    (made : Settings.ofEnvironment environment name chosen overrides = .ok result) :
    setting.of result = (overrides.reverse.findSome? setting.changed?).getD
      (((setting.named? chosen).or (setting.told? environment vendor)).getD (setting.fallback vendor)) := by
  rw [Settings.ofEnvironment_of_resolve resolved] at made
  split at made
  next => cases made
  next key found => rw [of_foldlM_apply setting made, of_starting setting found]

theorem Settings.ofEnvironment_eq_error {others : Environment} (resolved : Vendor.resolve name = .ok vendor)
    (filled : Setting.apiKey.Filled environment vendor) (filledToo : Setting.apiKey.Filled others vendor)
    (failed : ofEnvironment environment name chosen overrides = .error failure) :
    ofEnvironment others name chosen overrides = .error failure := by
  obtain ⟨key, found⟩ := Option.isSome_iff_exists.1 (Setting.isSome_told?_iff.2 filled)
  obtain ⟨other, foundToo⟩ := Option.isSome_iff_exists.1 (Setting.isSome_told?_iff.2 filledToo)
  rw [ofEnvironment_of_resolve resolved, found] at failed
  rw [ofEnvironment_of_resolve resolved, foundToo]
  exact Override.foldlM_apply_eq_error _ _ failed

theorem Settings.ofSurroundings_of_loaded {files : Files} {loaded : Environment}
    (loads : environment.loadDefault files = .ok loaded) :
    ofSurroundings environment files name chosen overrides =
      checkOverrides overrides >>= fun _ => ofEnvironment loaded name chosen overrides := by
  rw [ofSurroundings, loads]
  simp only [bind, Except.bind]

/-- Where what is set decides on a setting, it wins over whatever the file of variables defines. -/
theorem Setting.Decided.of_ofSurroundings (decided : setting.Decided environment vendor)
    (resolved : Vendor.resolve name = .ok vendor) {files : Files} (furnished : files.Furnished)
    (made : Settings.ofSurroundings environment files name chosen overrides = .ok result) :
    setting.of result = (overrides.reverse.findSome? setting.changed?).getD
      (((setting.named? chosen).or (setting.told? environment vendor)).getD (setting.fallback vendor)) := by
  obtain ⟨added, loads⟩ := environment.loadDefault_adds furnished
  rw [Settings.ofSurroundings_of_loaded loads] at made
  obtain ⟨_, _, made⟩ := bind_eq_ok.1 made
  rw [of_ofEnvironment setting resolved made, decided.told?_append]

theorem Setting.Decided.fixed (decided : setting.Decided environment vendor)
    (resolved : Vendor.resolve name = .ok vendor) : setting.Fixed environment name := by
  intro chosen overrides files others furnished furnishedToo settings alternative made madeToo
  exact (decided.of_ofSurroundings resolved furnished made).trans
    (decided.of_ofSurroundings resolved furnishedToo madeToo).symm

/-- Where a key is set, settings fail to come out alike whatever the file of variables defines. -/
theorem Settings.ofSurroundings_eq_error (resolved : Vendor.resolve name = .ok vendor)
    (filled : Setting.apiKey.Filled environment vendor) {files others : Files} (furnished : files.Furnished)
    (furnishedToo : others.Furnished) (failed : ofSurroundings environment files name chosen overrides = .error failure) :
    ofSurroundings environment others name chosen overrides = .error failure := by
  obtain ⟨added, loads⟩ := environment.loadDefault_adds furnished
  obtain ⟨addedToo, loadsToo⟩ := environment.loadDefault_adds furnishedToo
  rw [ofSurroundings_of_loaded loads] at failed
  rw [ofSurroundings_of_loaded loadsToo]
  obtain unchecked | ⟨checked, passes, unmade⟩ := bind_eq_error.1 failed
  · exact bind_eq_error.2 (.inl unchecked)
  · exact bind_eq_error.2
      (.inr ⟨checked, passes, ofEnvironment_eq_error resolved (filled.append added) (filled.append addedToo) unmade⟩)

theorem Settings.ofSurroundings_of_defined (text value : String) (resolved : Vendor.resolve name = .ok .gemini)
    (free : environment.lookup "GEMINI_API_KEY" = none)
    (defines : (Text.lines text).filterMap Environment.definition? = [("GEMINI_API_KEY", value)])
    (storable : Environment.isStorable ("GEMINI_API_KEY", value) = true) (written : value.isEmpty = false) :
    ∃ settings, ofSurroundings environment (.defining text) name none [] = .ok settings ∧ settings.apiKey = value := by
  have loads : environment.loadDefault (.defining text) = .ok (environment ++ [("GEMINI_API_KEY", value)]) := by
    rw [environment.loadDefault_of_find (Files.find_defining text)]
    exact environment.load_of_single defines (by decide) free storable
  have held : Environment.value? (environment ++ [("GEMINI_API_KEY", value)]) "GEMINI_API_KEY" = some value := by
    rw [Environment.value?, List.lookup_append, free]
    simp [written]
  have told : Setting.apiKey.told? (environment ++ [("GEMINI_API_KEY", value)]) .gemini = some value := by
    change ("GEMINI_API_KEY" :: ["GOOGLE_API_KEY"]).findSome? _ = _
    rw [List.findSome?_cons, held]
  refine ⟨starting (environment ++ [("GEMINI_API_KEY", value)]) .gemini none value, ?_, rfl⟩
  rw [ofSurroundings_of_loaded loads, ofEnvironment_of_resolve resolved, told]
  rfl

theorem Setting.not_fixed (resolved : Vendor.resolve name = .ok .gemini)
    (free : environment.lookup "GEMINI_API_KEY" = none) : ¬ apiKey.Fixed environment name := by
  intro fixed
  obtain ⟨settings, made, first⟩ := Settings.ofSurroundings_of_defined "GEMINI_API_KEY=a" "a" resolved free
    (by decide +kernel) (by decide +kernel) (by decide)
  obtain ⟨alternative, madeToo, second⟩ := Settings.ofSurroundings_of_defined "GEMINI_API_KEY=b" "b" resolved free
    (by decide +kernel) (by decide +kernel) (by decide)
  have same : settings.apiKey = alternative.apiKey :=
    fixed none [] _ _ (Files.furnished_defining (by decide)) (Files.furnished_defining (by decide)) _ _ made madeToo
  rw [first, second] at same
  revert same
  decide

/-- A setting that some variable of the environment gives comes out the same whatever the file of variables defines, unless it
is the key of the vendor that has two variables for it, and the one that goes first is not set. And where it is a key that is
given, settings fail to come out alike. -/
theorem Setting.environment_wins_iff (resolved : Vendor.resolve name = .ok vendor)
    (filled : setting.Filled environment vendor) :
    (setting.Fixed environment name ↔
      ¬ (vendor = .gemini ∧ setting = apiKey ∧ environment.lookup "GEMINI_API_KEY" = none)) ∧
    (apiKey.Filled environment vendor → ∀ (files others : Files), files.Furnished → others.Furnished →
      ∀ (chosen : Option String) (overrides : List Override) (failure : Failure),
        Settings.ofSurroundings environment files name chosen overrides = .error failure ↔
          Settings.ofSurroundings environment others name chosen overrides = .error failure) := by
  refine ⟨⟨?_, fun otherwise => ((decided_iff filled).2 otherwise).fixed resolved⟩, ?_⟩
  · rintro fixed ⟨rfl, rfl, free⟩
    exact not_fixed resolved free fixed
  · intro keyed files others furnished furnishedToo chosen overrides failure
    exact ⟨Settings.ofSurroundings_eq_error resolved keyed furnished furnishedToo,
      Settings.ofSurroundings_eq_error resolved keyed furnishedToo furnished⟩

/-- The variable that goes first is empty but set, so that the other one gives the key whatever the file defines. -/
theorem Setting.second_variable_wins :
    Vendor.resolve "gemini" = .ok .gemini ∧
      apiKey.Filled [("GOOGLE_API_KEY", "explicit"), ("GEMINI_API_KEY", "")] .gemini ∧
      apiKey.Fixed [("GOOGLE_API_KEY", "explicit"), ("GEMINI_API_KEY", "")] "gemini" := by
  have resolved : Vendor.resolve "gemini" = .ok .gemini := by rfl
  have filled : apiKey.Filled [("GOOGLE_API_KEY", "explicit"), ("GEMINI_API_KEY", "")] .gemini :=
    ⟨"GOOGLE_API_KEY", by decide, by decide⟩
  exact ⟨resolved, filled, (environment_wins_iff resolved filled).1.2 (by decide)⟩

/-- The key is in the other variable, and a file that defines the one that goes first brings another key. -/
theorem Setting.file_outranks_environment :
    apiKey.Filled [("GOOGLE_API_KEY", "explicit")] .gemini ∧
      (Files.defining "").Furnished ∧ (Files.defining "GEMINI_API_KEY=from-file").Furnished ∧
      (Settings.ofSurroundings [("GOOGLE_API_KEY", "explicit")] (.defining "") "gemini" none []).toOption.map
        Settings.apiKey = some "explicit" ∧
      (Settings.ofSurroundings [("GOOGLE_API_KEY", "explicit")] (.defining "GEMINI_API_KEY=from-file") "gemini" none
        []).toOption.map Settings.apiKey = some "from-file" :=
  ⟨⟨"GOOGLE_API_KEY", by decide, by decide⟩, Files.furnished_defining (by decide), Files.furnished_defining (by decide),
    by decide +kernel, by decide +kernel⟩

end Parley

