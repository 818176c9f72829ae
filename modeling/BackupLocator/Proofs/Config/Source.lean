import BackupLocator.Config.Source
import BackupLocator.Proofs.Config
import BackupLocator.Proofs.Config.Place
import BackupLocator.Proofs.Failure

/-!
# What configures a command

A command is configured by the file that is named for it, and where none is named by the
environment. The two are not mixed: beside a file the environment says nothing but the name of the
file, and the environment does not serve for a file that is missing. What is given on the command
line comes before both.
-/

namespace BackupLocator.Config

/-- A value is what is said, where something is said, and else what it is anyway. -/
def Says {α β : Type} (said : Option α) (means : α → β → Prop) (otherwise value : β) : Prop :=
  match said with
  | some a => means a value
  | none => value = otherwise

/-! ## The file that is named -/

/-- A file is named for a command. The argument comes before the variable, and an empty name is
none. -/
inductive Names (env : Environment) (argument : Option String) (file : String) : Prop
  | byArgument : argument = some file → file ≠ "" → Names env argument file
  | byVariable : (∀ name, argument = some name → name = "") →
      env.get? fileVariable = some file → file ≠ "" → Names env argument file

section

variable {env : Environment} {argument : Option String} {file : String}

theorem filter_nonEmpty_eq_some_iff {name? : Option String} {name : String} :
    name?.filter (· ≠ "") = some name ↔ name? = some name ∧ name ≠ "" := by
  simp [Option.filter_eq_some_iff]

theorem filter_nonEmpty_eq_none_iff {name? : Option String} :
    name?.filter (· ≠ "") = none ↔ ∀ name, name? = some name → name = "" := by
  simp [Option.filter_eq_none_iff]

theorem namedFile_eq_some_iff : namedFile env argument = some file ↔ Names env argument file := by
  rw [namedFile, Option.or_eq_some_iff, filter_nonEmpty_eq_some_iff, filter_nonEmpty_eq_none_iff,
    Environment.nonEmpty?, filter_nonEmpty_eq_some_iff]
  constructor
  · rintro (⟨hgiven, hne⟩ | ⟨hnone, hset, hne⟩)
    · exact .byArgument hgiven hne
    · exact .byVariable hnone hset hne
  · rintro (⟨hgiven, hne⟩ | ⟨hnone, hset, hne⟩)
    · exact .inl ⟨hgiven, hne⟩
    · exact .inr ⟨hnone, hset, hne⟩

theorem namedFile_eq_none_iff :
    namedFile env argument = none ↔ ∀ file, ¬Names env argument file := by
  simp only [← namedFile_eq_some_iff, Option.eq_none_iff_forall_ne_some, ne_eq]

/-- Of the variables only the one for the file matters to the name. -/
theorem namedFile_congr {env' : Environment}
    (h : env'.get? fileVariable = env.get? fileVariable) :
    namedFile env' argument = namedFile env argument := by
  rw [namedFile, namedFile, Environment.nonEmpty?, Environment.nonEmpty?, h]

end

/-! ## What is overridden -/

/-- A configuration is another one with the fields overridden that are given, and with no other
difference. -/
structure Overrides.Makes (o : Overrides) (base c : Config) : Prop where
  platformVersion : Says o.version (fun n v => v = .int n) base.platformVersion c.platformVersion
  packageId : Says (o.package.filter (· ≠ "")) (fun id v => v = .str id) base.packageId c.packageId
  preferRemovable : c.preferRemovable = base.preferRemovable
  storagePlace : c.storagePlace = base.storagePlace
  volumes : c.volumes = base.volumes
  sortCandidates : c.sortCandidates = base.sortCandidates

theorem Overrides.makes_iff {o : Overrides} {base c : Config} :
    o.Makes base c ↔ o.apply base = c := by
  obtain ⟨version, package⟩ := o
  constructor
  · rintro ⟨hversion, hpackage, hpreference, hplace, hvolumes, hsort⟩
    obtain ⟨platformVersion, packageId, preferRemovable, storagePlace, volumes, sortCandidates⟩ := c
    dsimp only at hversion hpackage hpreference hplace hvolumes hsort
    subst hpreference hplace hvolumes hsort
    unfold apply
    cases version <;> cases hid : package.filter (· ≠ "") <;>
      rw [hid] at hpackage <;> obtain rfl := hversion <;> obtain rfl := hpackage <;> rfl
  · rintro rfl
    unfold apply
    cases version <;> cases hid : package.filter (· ≠ "") <;>
      exact ⟨rfl, by rw [hid]; rfl, rfl, rfl, rfl, rfl⟩

/-! ## What the environment says -/

/-- A configuration is what the environment says: each of four variables says one field, where it is
set and not empty, and the other fields are what is configured where nothing is said. -/
structure SaidBy (env : Environment) (c : Config) : Prop where
  platformVersion : Says (env.nonEmpty? versionVariable)
    (fun text v => ∃ n, Text.WholeNumber.read? text.toList = some n ∧ v = .int n)
    default.platformVersion c.platformVersion
  packageId : Says (env.nonEmpty? packageVariable) (fun text v => v = .str text)
    default.packageId c.packageId
  preferRemovable : Says (env.nonEmpty? preferenceVariable)
    (fun text v => v = .bool (saysYes text)) default.preferRemovable c.preferRemovable
  storagePlace : Says (env.nonEmpty? placeVariable)
    (fun text place => ∃ p, Path.ofHomeText env text = .ok p ∧ place = .path p)
    default.storagePlace c.storagePlace
  volumes : c.volumes = default.volumes
  sortCandidates : c.sortCandidates = default.sortCandidates

/-- A variable that says a field changes that field and no other one. -/
theorem withVariable_eq_ok_iff {β : Type} {env : Environment} {name : String}
    {say : Config → String → Except Failure Config} {means : String → β → Prop} {c c' : Config}
    (field : Config → β) (put : Config → β → Config)
    (hsay : ∀ text, say c text = .ok c' ↔ ∃ v, means text v ∧ put c v = c')
    (hfield : put c (field c) = c) :
    withVariable env name say c = .ok c' ↔
      ∃ v, Says (env.nonEmpty? name) means (field c) v ∧ put c v = c' := by
  unfold withVariable Says
  cases env.nonEmpty? name with
  | some text => exact hsay text
  | none => simp [hfield]

section

variable {env : Environment} {c c' : Config}

theorem withVariable_sayVersion_eq_ok_iff :
    withVariable env versionVariable sayVersion c = .ok c' ↔
      ∃ v, Says (env.nonEmpty? versionVariable)
        (fun text v => ∃ n, Text.WholeNumber.read? text.toList = some n ∧ v = .int n)
        c.platformVersion v ∧ { c with platformVersion := v } = c' := by
  refine withVariable_eq_ok_iff platformVersion (fun c v => { c with platformVersion := v })
    (fun text => ?_) rfl
  unfold sayVersion
  cases Text.WholeNumber.read? text.toList <;> simp

theorem withVariable_sayPackage_eq_ok_iff :
    withVariable env packageVariable sayPackage c = .ok c' ↔
      ∃ v, Says (env.nonEmpty? packageVariable) (fun text v => v = .str text) c.packageId v ∧
        { c with packageId := v } = c' := by
  refine withVariable_eq_ok_iff packageId (fun c v => { c with packageId := v })
    (fun text => ?_) rfl
  simp [sayPackage]

theorem withVariable_sayPreference_eq_ok_iff :
    withVariable env preferenceVariable sayPreference c = .ok c' ↔
      ∃ v, Says (env.nonEmpty? preferenceVariable) (fun text v => v = .bool (saysYes text))
        c.preferRemovable v ∧ { c with preferRemovable := v } = c' := by
  refine withVariable_eq_ok_iff preferRemovable (fun c v => { c with preferRemovable := v })
    (fun text => ?_) rfl
  simp [sayPreference]

theorem withVariable_sayPlace_eq_ok_iff :
    withVariable env placeVariable (sayPlace env) c = .ok c' ↔
      ∃ place, Says (env.nonEmpty? placeVariable)
        (fun text place => ∃ p, Path.ofHomeText env text = .ok p ∧ place = .path p)
        c.storagePlace place ∧ { c with storagePlace := place } = c' := by
  refine withVariable_eq_ok_iff storagePlace (fun c v => { c with storagePlace := v })
    (fun text => ?_) rfl
  rw [sayPlace, Failure.map_eq_ok_iff]
  constructor
  · rintro ⟨p, hp, rfl⟩
    exact ⟨.path p, ⟨p, hp, rfl⟩, rfl⟩
  · rintro ⟨_, ⟨p, hp, rfl⟩, rfl⟩
    exact ⟨p, hp, rfl⟩

end

theorem ofEnvironment_eq_ok_iff {env : Environment} {c : Config} :
    ofEnvironment env = .ok c ↔ SaidBy env c := by
  constructor
  · intro h
    obtain ⟨c₁, h₁, h⟩ := Failure.bind_eq_ok_iff.mp h
    obtain ⟨c₂, h₂, h⟩ := Failure.bind_eq_ok_iff.mp h
    obtain ⟨c₃, h₃, h₄⟩ := Failure.bind_eq_ok_iff.mp h
    obtain ⟨version, hversion, rfl⟩ := withVariable_sayVersion_eq_ok_iff.mp h₁
    obtain ⟨package, hpackage, rfl⟩ := withVariable_sayPackage_eq_ok_iff.mp h₂
    obtain ⟨preference, hpreference, rfl⟩ := withVariable_sayPreference_eq_ok_iff.mp h₃
    obtain ⟨place, hplace, rfl⟩ := withVariable_sayPlace_eq_ok_iff.mp h₄
    exact ⟨hversion, hpackage, hpreference, hplace, rfl, rfl⟩
  · rintro ⟨hversion, hpackage, hpreference, hplace, hvolumes, hsort⟩
    refine Failure.bind_eq_ok_iff.mpr
      ⟨_, withVariable_sayVersion_eq_ok_iff.mpr ⟨_, hversion, rfl⟩, ?_⟩
    refine Failure.bind_eq_ok_iff.mpr
      ⟨_, withVariable_sayPackage_eq_ok_iff.mpr ⟨_, hpackage, rfl⟩, ?_⟩
    refine Failure.bind_eq_ok_iff.mpr
      ⟨_, withVariable_sayPreference_eq_ok_iff.mpr ⟨_, hpreference, rfl⟩, ?_⟩
    refine withVariable_sayPlace_eq_ok_iff.mpr ⟨_, hplace, ?_⟩
    obtain ⟨platformVersion, packageId, preferRemovable, storagePlace, volumes, sortCandidates⟩ := c
    obtain rfl := hvolumes
    obtain rfl := hsort
    rfl

/-! ## All sources -/

section

variable {env : Environment} {fs : FileSystem} {argument : Option String} {o : Overrides}
  {file : String} {c : Config}

theorem ofSources_of_named (h : Names env argument file) :
    ofSources env fs argument o = (loadNamed fs file).map o.apply := by
  rw [ofSources, namedFile_eq_some_iff.mpr h]

theorem ofSources_of_unnamed (h : ∀ file, ¬Names env argument file) :
    ofSources env fs argument o =
      ((ofEnvironment env).mapError SourceFailure.failed).map o.apply := by
  rw [ofSources, namedFile_eq_none_iff.mpr h]

theorem map_eq_ok_iff_makes {ε : Type} {x : Except ε Config} :
    x.map o.apply = .ok c ↔ ∃ base, x = .ok base ∧ o.Makes base c := by
  simp only [Overrides.makes_iff]
  cases x <;> simp [Except.map]

theorem loadNamed_eq_ok_iff :
    loadNamed fs file = .ok c ↔
      fs.isPresent (.ofText file) = .ok true ∧ load fs (.ofText file) = .ok c := by
  unfold loadNamed
  rcases fs.isPresent (.ofText file) with e | _ | _
  · simp
  · simp
  · simp [Failure.mapError_eq_ok_iff]

theorem loadNamed_eq_notFound_iff :
    loadNamed fs file = .error (.notFound file) ↔ fs.isPresent (.ofText file) = .ok false := by
  unfold loadNamed
  rcases fs.isPresent (.ofText file) with e | _ | _
  · simp
  · simp
  · simp [Failure.mapError_eq_error_iff]

end

/-! ## Sources of the right kinds -/

/-- What the environment says is of the kinds of the fields. -/
theorem SaidBy.isWellTyped {env : Environment} {c : Config} (h : SaidBy env c) :
    c.IsWellTyped where
  platformVersion := by
    have hversion := h.platformVersion
    cases hset : env.nonEmpty? versionVariable with
    | none =>
      rw [hset] at hversion
      exact ⟨_, hversion⟩
    | some text =>
      rw [hset] at hversion
      obtain ⟨n, -, hn⟩ := hversion
      exact ⟨n, hn⟩
  packageId := by
    have hpackage := h.packageId
    cases hset : env.nonEmpty? packageVariable <;> rw [hset] at hpackage <;>
      exact .inr ⟨_, hpackage⟩
  preferRemovable := by
    have hpreference := h.preferRemovable
    cases hset : env.nonEmpty? preferenceVariable <;> rw [hset] at hpreference
    · exact .inl hpreference
    · exact .inr ⟨_, hpreference⟩
  storagePlace v hv := by
    have hplace := h.storagePlace
    cases hset : env.nonEmpty? placeVariable <;> rw [hset] at hplace
    · rw [hplace] at hv
      contradiction
    · obtain ⟨p, -, hp⟩ := hplace
      rw [hp] at hv
      contradiction
  volumes := ⟨[], h.volumes, by simp⟩
  sortCandidates := ⟨_, h.sortCandidates⟩

/-- What is overridden stays of the kinds of the fields. -/
theorem Overrides.Makes.isWellTyped {o : Overrides} {base c : Config} (h : o.Makes base c)
    (hbase : base.IsWellTyped) : c.IsWellTyped where
  platformVersion := by
    have hversion := h.platformVersion
    cases hset : o.version <;> rw [hset] at hversion
    · rw [hversion]
      exact hbase.platformVersion
    · exact ⟨_, hversion⟩
  packageId := by
    have hpackage := h.packageId
    cases hset : o.package.filter (· ≠ "") <;> rw [hset] at hpackage
    · rw [hpackage]
      exact hbase.packageId
    · exact .inr ⟨_, hpackage⟩
  preferRemovable := h.preferRemovable ▸ hbase.preferRemovable
  storagePlace := h.storagePlace ▸ hbase.storagePlace
  volumes := h.volumes ▸ hbase.volumes
  sortCandidates := h.sortCandidates ▸ hbase.sortCandidates

/-- The sources of a command are of the right kinds: a file that is named for it holds values of the
kinds of the fields, if it can be loaded. -/
def AreWellTyped (env : Environment) (fs : FileSystem) (argument : Option String) : Prop :=
  ∀ file base, Names env argument file → load fs (.ofText file) = .ok base → base.IsWellTyped

theorem AreWellTyped.ofSources {env : Environment} {fs : FileSystem} {argument : Option String}
    {o : Overrides} {c : Config} (hsources : AreWellTyped env fs argument)
    (h : ofSources env fs argument o = .ok c) : c.IsWellTyped := by
  by_cases hnamed : ∃ file, Names env argument file
  · obtain ⟨file, hfile⟩ := hnamed
    rw [ofSources_of_named hfile, map_eq_ok_iff_makes] at h
    obtain ⟨base, hbase, hmakes⟩ := h
    exact hmakes.isWellTyped (hsources file base hfile (loadNamed_eq_ok_iff.mp hbase).2)
  · rw [ofSources_of_unnamed (not_exists.mp hnamed), map_eq_ok_iff_makes] at h
    obtain ⟨base, hbase, hmakes⟩ := h
    have hsaid : SaidBy env base := ofEnvironment_eq_ok_iff.mp (Failure.mapError_eq_ok_iff.mp hbase)
    exact hmakes.isWellTyped hsaid.isWellTyped

/-! ## Which source serves -/

/-- A command is configured by the file that is named for it, and by nothing that the environment
says beside that name; a file that is missing is a failure and has no substitute. Where no file is
named, each variable of the environment says its own field. In either case what is overridden is
overridden, and nothing else. -/
theorem ofSources_precedence (env : Environment) (fs : FileSystem) (argument : Option String)
    (o : Overrides) :
    (∀ file, Names env argument file →
      (∀ c, ofSources env fs argument o = .ok c ↔ fs.isPresent (.ofText file) = .ok true ∧
        ∃ base, load fs (.ofText file) = .ok base ∧ o.Makes base c) ∧
      (ofSources env fs argument o = .error (.notFound file) ↔
        fs.isPresent (.ofText file) = .ok false) ∧
      ∀ env' : Environment, env'.get? fileVariable = env.get? fileVariable →
        ofSources env' fs argument o = ofSources env fs argument o) ∧
    ((∀ file, ¬Names env argument file) →
      ∀ c, ofSources env fs argument o = .ok c ↔ ∃ base, SaidBy env base ∧ o.Makes base c) := by
  refine ⟨fun file hnamed => ⟨fun c => ?_, ?_, fun env' henv => ?_⟩, fun hunnamed c => ?_⟩
  · simp only [ofSources_of_named hnamed, map_eq_ok_iff_makes, loadNamed_eq_ok_iff, and_assoc,
      exists_and_left]
  · rw [ofSources_of_named hnamed, ← loadNamed_eq_notFound_iff]
    cases loadNamed fs file <;> simp [Except.map]
  · -- The other environment names the same file, and is not asked for more.
    have hnamed' : Names env' argument file := by
      rw [← namedFile_eq_some_iff, namedFile_congr henv, namedFile_eq_some_iff]
      exact hnamed
    rw [ofSources_of_named hnamed, ofSources_of_named hnamed']
  · rw [ofSources_of_unnamed hunnamed, map_eq_ok_iff_makes]
    simp only [Failure.mapError_eq_ok_iff, ofEnvironment_eq_ok_iff]

/-- An environment that names a file, and says a version that is no number. -/
def fileNamed : Environment :=
  (homeSet.set versionVariable (some "soon")).set fileVariable (some "/config.json")

/-- The file comes before the environment, and the version that is given before both. An identity of
the build that is empty overrides nothing. -/
theorem ofSources_precedence_on_file :
    let o : Overrides := ⟨some 26, some ""⟩
    Names fileNamed none "/config.json" ∧
      ofSources fileNamed (holding (Json.render .file (.obj (placeOnly "/mnt/card")))) none o =
        .ok { default with
          platformVersion := .int 26
          storagePlace := .path (.ofText "/mnt/card") } ∧
      ofSources fileNamed .empty none o = .error (.notFound "/config.json") := by
  intro o
  have hnamed : Names fileNamed none "/config.json" := .byVariable (by simp) rfl (by decide)
  have hfile := holds_placeOnly "/mnt/card"
  refine ⟨hnamed, ?_, ?_⟩
  · obtain ⟨hloads, -, -⟩ := (ofSources_precedence fileNamed _ none o).1 _ hnamed
    exact (hloads _).mpr ⟨hfile.1, _, hfile.load_eq, ⟨rfl, rfl, rfl, rfl, rfl, rfl⟩⟩
  · obtain ⟨-, hmissing, -⟩ := (ofSources_precedence fileNamed .empty none o).1 _ hnamed
    exact hmissing.mpr rfl

end BackupLocator.Config
