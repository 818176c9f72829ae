import BackupLocator.Platform.Local
import BackupLocator.Platform.Table
import BackupLocator.Proofs.Failure
import BackupLocator.Proofs.FileSystem.Creation

/-!
# What platforms promise

How the answers of a platform fail, and what a handle leads to where volumes are configured. A
platform reports a volume that is not available as a missing entry of its list; that it cannot list
its volumes at all never means that storage is missing.
-/

namespace BackupLocator

/-! ## Lists of roots -/

/-- A platform that fails to list its removable roots does not say thereby that storage is not
available: a volume that is not available is a missing entry of the list. -/
def Platform.ListsMissing (p : Platform) : Prop :=
  ∀ fs, Failure.Available (p.externalRoots fs)

theorem FileSystem.isDirectory_available (fs : FileSystem) (p : Path) :
    Failure.Available (fs.isDirectory p) := by
  intro e h
  obtain ⟨cause, rfl⟩ := FileSystem.isDirectory_error h
  rfl

theorem FileSystem.canWrite_available (fs : FileSystem) (p : Path) :
    Failure.Available (fs.canWrite p) :=
  (fs.isDirectory_available p).map _

namespace Platform

theorem Local.volumeRoot_available (fs : FileSystem) (fields : List (String × Json)) :
    Failure.Available (volumeRoot fs fields) := by
  unfold volumeRoot
  dsimp only
  split
  · refine .bind ?_ fun path => .bind (fs.isDirectory_available path) fun found => .ok _
    unfold pathOf
    split
    · exact .ok _
    · exact .error rfl
  · exact .ok none

theorem Local.removableRoots_available (fs : FileSystem) (entries : List Json) :
    Failure.Available (removableRoots fs entries) := by
  induction entries with
  | nil => exact .ok []
  | cons entry entries ih =>
    refine .bind ?_ fun fields => ?_
    · unfold fieldsOf
      split
      · exact .ok _
      · exact .error rfl
    · split
      · exact .bind (volumeRoot_available fs fields) fun root => .bind ih fun roots => .ok _
      · exact ih

/-- Configured volumes that are not mounted are missing entries. -/
theorem ofConfig_listsMissing (c : Config) : (ofConfig c).ListsMissing := by
  intro fs
  refine .bind ?_ fun entries => Local.removableRoots_available fs entries
  unfold Config.volumeEntries
  split
  · exact .ok _
  · exact .ok _
  · exact .ok _
  · exact .error rfl

end Platform

theorem Environment.homeOf_available (env : Environment) (name : String) :
    Failure.Available (env.homeOf name) := by
  unfold homeOf
  split
  · exact .ok _
  split
  · exact .error rfl
  split
  · exact .ok _
  · exact .error rfl

theorem Path.expandHome_available (env : Environment) (p : Path) :
    Failure.Available (p.expandHome env) := by
  unfold expandHome
  split
  · refine .bind (env.homeOf_available _) fun home => ?_
    split
    · exact .error rfl
    · exact .ok _
  · exact .ok p

theorem StorageRoot.ofFields_available (env : Environment) (fields : List (String × Json)) :
    Failure.Available (ofFields env fields) := by
  unfold ofFields
  dsimp only
  split
  · exact .error (e := .mistyped) rfl
  split
  · exact .ok _
  · exact .bind ((Path.expandHome_available env _).map some) fun path => .ok _
  · exact .error (e := .mistyped) rfl

/-- Roots that are written down are listed, or cannot be read. -/
theorem PlatformTable.platform_listsMissing (t : PlatformTable) (env : Environment) :
    (t.platform env).ListsMissing := by
  intro fs
  refine .mapM (fun row => ?_) t.roots
  cases row with
  | none => exact .ok none
  | some fields => exact (StorageRoot.ofFields_available env fields).map some

/-! ## Handles of configured volumes -/

namespace Platform

/-- The place at which the volume of a document id lies. -/
def Local.baseOf (c : Config) (id : String) : Except Failure (Option Path) :=
  (mountOf c (Handle.volumeTag id)).bind Place.path?

/-- Where a handle leads to a path, that is a directory below the place of the volume, or that place
itself. No segment of the way there goes up. -/
theorem Local.handlePath_eq_ok {c : Config} {fs : FileSystem} {handle id : String} {path : Path}
    (h : handlePath c fs handle = .ok path) (hid : Handle.documentId handle = .ok id) :
    let relative := Path.ofText (Handle.relativePath id)
    ∃ base, baseOf c id = .ok (some base) ∧ relative.isAbsolute = false ∧
      ".." ∉ relative.parts ∧ path = base.join relative ∧ fs.isDirectory path = .ok true := by
  intro relative
  unfold handlePath at h
  split at h
  · contradiction
  obtain ⟨id', hid', h⟩ := Failure.bind_eq_ok_iff.mp h
  obtain rfl : id = id' := Except.ok.inj (hid.symm.trans hid')
  obtain ⟨mount, hmount, h⟩ := Failure.bind_eq_ok_iff.mp h
  dsimp only at h
  -- Past the two guards the volume has a place, and the way there does not go up.
  split at h
  · contradiction
  split at h
  · contradiction
  rename_i hinside
  obtain ⟨habsolute, hup⟩ := not_or.mp hinside
  obtain ⟨base?, hbase, h⟩ := Failure.bind_eq_ok_iff.mp h
  cases base? with
  | none => cases h
  | some base =>
    obtain ⟨found, hfound, h⟩ := Failure.bind_eq_ok_iff.mp h
    cases found with
    | false => cases h
    | true =>
      have hpath : .ok (base.join relative) = Except.ok path := h
      obtain rfl := Except.ok.inj hpath
      have hbaseOf := Failure.bind_eq_ok_iff.mpr ⟨mount, hmount, hbase⟩
      exact ⟨base, hbaseOf, Bool.eq_false_iff.mpr habsolute, hup, rfl, hfound⟩

end Platform

end BackupLocator
