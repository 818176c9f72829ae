import BackupLocator.Config.Shared
import BackupLocator.Proofs.Config.Loading
import BackupLocator.Proofs.Failure

/-!
# Where the shared configuration comes from

The shared configuration is that of the file, where there is a file that can be used, and else that
of the environment. Two things stand against this. Where there is no file, what is configured where
nothing is said is shared, and the environment is not asked. And where the values in the file make
no object, or are nested too deep, the environment does not serve either.
-/

namespace BackupLocator

/-! ## How files and environments fail -/

/-- Where a computation fails, the environment serves instead. -/
abbrev Failure.Recoverable {α : Type} (x : Except Failure α) : Prop :=
  Only (fun e => ConfigStore.isRecoverable e = true) x

theorem FileSystem.isPresent_recoverable (fs : FileSystem) (p : Path) :
    Failure.Recoverable (fs.isPresent p) := by
  refine .map ?_ _
  unfold probe
  split
  · exact .ok none
  split
  · exact .ok _
  · exact .ok none
  · exact .error rfl
  · exact .ok none

theorem FileSystem.read_recoverable (fs : FileSystem) (p : Path) :
    Failure.Recoverable (fs.read p) := by
  unfold read
  split
  · exact .error rfl
  split
  · exact .error rfl
  · exact .error rfl
  split
  · exact .ok _
  · exact .error rfl
  · exact .error rfl

theorem Environment.homeOf_error (env : Environment) (name : String) :
    Failure.Only (fun e => e = .malformed ∨ e = .homeless) (env.homeOf name) := by
  unfold homeOf
  split
  · exact .ok _
  split
  · exact .error (.inl rfl)
  split
  · exact .ok _
  · exact .error (.inr rfl)

theorem Path.expandHome_error (env : Environment) (p : Path) :
    Failure.Only (fun e => e = .malformed ∨ e = .homeless) (p.expandHome env) := by
  unfold expandHome
  split
  · refine .bind (env.homeOf_error _) fun home => ?_
    split
    · exact .error (.inr rfl)
    · exact .ok _
  · exact .ok p

namespace Config

theorem withVariable_error {P : Failure → Prop} {env : Environment} {name : String}
    {say : Config → String → Except Failure Config} (h : ∀ c text, Failure.Only P (say c text))
    (c : Config) : Failure.Only P (withVariable env name say c) := by
  unfold withVariable
  split
  · exact h c _
  · exact .ok c

/-- The environment fails for a value that cannot be read, or for want of a home directory. -/
theorem ofEnvironment_error (env : Environment) :
    Failure.Only (fun e => e = .malformed ∨ e = .homeless) (ofEnvironment env) := by
  refine .bind (withVariable_error (fun c text => ?_) _) fun c =>
    .bind (withVariable_error (fun c text => .ok _) c) fun c =>
    .bind (withVariable_error (fun c text => .ok _) c) fun c =>
    withVariable_error (fun c text => (Path.expandHome_error env _).map _) c
  unfold sayVersion
  split
  · exact .ok _
  · exact .error (.inl rfl)

/-! ## Loading -/

variable {env : Environment} {fs : FileSystem} {file : Path}

/-- The values in a file are nested too deep, or make no object. -/
def HoldsNoObject (fs : FileSystem) (file : Path) : Prop :=
  HoldsTooDeep fs file ∨ ∃ v, Holds fs file v ∧ ∀ fields, v ≠ .obj fields

theorem HoldsNoObject.load_eq (h : HoldsNoObject fs file) :
    load fs file = .error .tooDeep ∨ load fs file = .error .unsupported := by
  rcases h with hdeep | ⟨v, hv, hobject⟩
  · exact .inl hdeep.load_eq
  · rw [hv.load_eq]
    cases v with
    | obj fields => exact absurd rfl (hobject fields)
    | null | bool | int | float | str | arr => exact .inr rfl

theorem readValue_error (content : List UInt8) :
    Failure.Only (fun e => ConfigStore.isRecoverable e = true ∨ e = .tooDeep)
      (readValue content) := by
  unfold readValue
  split
  · exact .error (.inl rfl)
  split
  · exact .ok _
  · exact .error (.inl rfl)
  · exact .error (.inl rfl)
  · exact .error (.inr rfl)

theorem ofJson_recoverable (fields : List (String × Json)) :
    Failure.Recoverable (ofJson (.obj fields)) := by
  rw [ofJson]
  split
  · split
    · exact .ok _
    · refine .map ?_ _
      unfold placeOfFile
      split
      · exact .ok _
      · exact .ok _
      · exact .error rfl
  · exact .error rfl

/-- There is no other way for a file to fail without the environment to serve. -/
theorem load_error (fs : FileSystem) (file : Path) :
    Failure.Only (fun e => ConfigStore.isRecoverable e = true ∨ HoldsNoObject fs file)
      (load fs file) := by
  intro e h
  -- A load has four steps that can fail: the look, the bytes, the value and its fields.
  rcases hpresent : fs.isPresent file with e' | _ | _
  · rw [load_of_unknown hpresent] at h
    obtain rfl := Except.error.inj h
    exact .inl (fs.isPresent_recoverable file _ hpresent)
  · simp [load_of_absent hpresent] at h
  rw [load_of_present hpresent] at h
  rcases hread : fs.read file with e' | content
  · rw [hread] at h
    obtain rfl : e' = e := Except.error.inj h
    exact .inl (fs.read_recoverable file _ hread)
  rw [hread] at h
  rcases hvalue : readValue content with e' | v
  · simp only [bind, Except.bind, hvalue] at h
    obtain rfl := Except.error.inj h
    refine (readValue_error content _ hvalue).imp_right ?_
    rintro rfl
    exact .inl ⟨hpresent, content, hread, hvalue⟩
  simp only [bind, Except.bind, hvalue] at h
  by_cases hobject : ∃ fields, v = .obj fields
  · obtain ⟨fields, rfl⟩ := hobject
    exact .inl (ofJson_recoverable fields e h)
  · exact .inr (.inr ⟨v, ⟨hpresent, content, hread, hvalue⟩, not_exists.mp hobject⟩)

/-! ## Sharing -/

/-- The configuration of the file, where there is a file that can be used, and else that of the
environment. -/
def ofFileOrEnvironment (env : Environment) (fs : FileSystem) (file : Path) :
    Except Failure Config :=
  match fs.isPresent file, load fs file with
  | .ok true, .ok c => .ok c
  | _, _ => ofEnvironment env

end Config

namespace ConfigStore

open Config

variable {env : Environment} {fs : FileSystem} {file : Path}

theorem sharedConfig_of_holdsNoObject (h : HoldsNoObject fs file) :
    sharedConfig env fs file = .error .tooDeep ∨
      sharedConfig env fs file = .error .unsupported := by
  unfold sharedConfig
  rcases h.load_eq with hload | hload <;> simp [hload, isRecoverable]

theorem sharedConfig_eq_iff : sharedConfig env fs file = ofFileOrEnvironment env fs file ↔
    (fs.isPresent file = .ok false → ofEnvironment env = .ok default) ∧
      ¬HoldsNoObject fs file := by
  by_cases hobject : HoldsNoObject fs file
  · -- The environment would have served, and never fails in the way that the file does.
    have hserved : ofFileOrEnvironment env fs file = ofEnvironment env := by
      rcases hobject.load_eq with hload | hload <;> simp [ofFileOrEnvironment, hload]
    have hnever : sharedConfig env fs file ≠ ofEnvironment env := by
      intro heq
      rcases sharedConfig_of_holdsNoObject hobject with hfails | hfails <;>
        rcases ofEnvironment_error env _ (heq.symm.trans hfails) with h | h <;> contradiction
    simp [hserved, hnever, hobject]
  rcases hpresent : fs.isPresent file with e | _ | _
  · have hrecoverable := fs.isPresent_recoverable file e hpresent
    simp [sharedConfig, load_of_unknown hpresent, hrecoverable, ofFileOrEnvironment, hpresent,
      hobject]
  · simp [sharedConfig, load_of_absent hpresent, ofFileOrEnvironment, hpresent, hobject, eq_comm]
  · cases hload : load fs file with
    | ok c => simp [sharedConfig, ofFileOrEnvironment, hload, hpresent, hobject]
    | error e =>
      have hrecoverable := (load_error fs file e hload).resolve_right hobject
      simp [sharedConfig, ofFileOrEnvironment, hload, hrecoverable, hobject]

theorem takeShared_config? {s : ConfigStore} (h : s.shared = none) :
    (s.takeShared env fs file).map config? = (sharedConfig env fs file).map some := by
  simp only [takeShared, h]
  cases sharedConfig env fs file <;> simp [Except.map, config?, push, share]

/-- Where no configuration is shared yet, the one that is taken is that of the file, or else that of
the environment, if and only if the environment says nothing where there is no file, and a file that
is there holds neither a value that is no object nor one that is nested too deep. -/
theorem takes_file_or_environment_iff {s : ConfigStore} (h : s.shared = none) :
    (s.takeShared env fs file).map config? = (ofFileOrEnvironment env fs file).map some ↔
      (fs.isPresent file = .ok false → ofEnvironment env = .ok default) ∧
        ¬HoldsNoObject fs file := by
  rw [takeShared_config? h, ← sharedConfig_eq_iff]
  constructor
  · intro heq
    cases hshared : sharedConfig env fs file <;>
      cases hserved : ofFileOrEnvironment env fs file <;> simp_all [Except.map]
  · intro heq
    rw [heq]

/-- An environment in which the version of the platform is set. -/
def versionSet : Environment := (default : Environment).set versionVariable (some "26")

theorem ofEnvironment_versionSet :
    ofEnvironment versionSet = .ok { Config.default with platformVersion := .int 26 } := rfl

theorem takes_environment_for_broken_file :
    (empty.takeShared versionSet (holding "\x7bnot json") holdingFile).map config? =
      (ofFileOrEnvironment versionSet (holding "\x7bnot json") holdingFile).map some ∧
    ofFileOrEnvironment versionSet (holding "\x7bnot json") holdingFile =
      .ok { Config.default with platformVersion := .int 26 } := by
  have hbroken : load (holding "\x7bnot json") holdingFile = .error .notJson :=
    load_of_notJson rfl
  refine ⟨(takes_file_or_environment_iff rfl).mpr ⟨fun habsent => ?_, fun hobject => ?_⟩, ?_⟩
  · simp [load_of_absent habsent] at hbroken
  · rcases hobject.load_eq with hload | hload <;> simp [hbroken] at hload
  · simp [ofFileOrEnvironment, hbroken, ofEnvironment_versionSet]

/-- Without a file the environment is not asked, and it does not serve for a file that holds an
array. -/
theorem takes_no_environment :
    (empty.takeShared versionSet .empty holdingFile).map config? ≠
      (ofFileOrEnvironment versionSet .empty holdingFile).map some ∧
    (empty.takeShared versionSet (holding "[]") holdingFile).map config? ≠
      (ofFileOrEnvironment versionSet (holding "[]") holdingFile).map some := by
  have habsent : FileSystem.empty.isPresent holdingFile = .ok false := rfl
  have hparse : Json.parse "[]".toList = .ok (.arr []) := rfl
  have harray : load (holding "[]") holdingFile = .error .unsupported :=
    (holds_holding hparse).load_eq
  constructor
  · rw [takeShared_config? rfl, sharedConfig, load_of_absent habsent]
    simp [ofFileOrEnvironment, habsent, ofEnvironment_versionSet, Except.map, Config.default,
      Version.firstScoped]
  · rw [takeShared_config? rfl, sharedConfig, harray]
    simp [ofFileOrEnvironment, harray, ofEnvironment_versionSet, Except.map, isRecoverable]

end ConfigStore

end BackupLocator
