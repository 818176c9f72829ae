import BackupLocator.Config

/-!
# Configurations whose values are of their kinds

A configuration keeps its values as they were given. Where each is of its kind, the version compares
with numbers, the identity of the build can be told from others, the default storage lies at a path
or nowhere, and the volumes are a list of fields.
-/

namespace BackupLocator

/-- A value is a text. -/
def Json.IsText (v : Json) : Prop := ∃ s, v = .str s

/-- A value is a truth value. -/
def Json.IsFlag (v : Json) : Prop := ∃ b, v = .bool b

/-- The fields of a volume have values of their kinds, as far as they are there. -/
structure IsVolume (fields : List (String × Json)) : Prop where
  uuid : ∀ v, Json.lookup "uuid" fields = some v → v.IsText
  description : ∀ v, Json.lookup "description" fields = some v → v.IsText
  path : ∀ v, Json.lookup "path" fields = some v → v.IsText
  removable : ∀ v, Json.lookup "removable" fields = some v → v.IsFlag

namespace Config

/-- All values of a configuration are of their kinds. -/
structure IsWellTyped (c : Config) : Prop where
  platformVersion : ∃ n, c.platformVersion = .int n
  packageId : c.packageId = .null ∨ c.packageId.IsText
  preferRemovable : c.preferRemovable = .null ∨ c.preferRemovable.IsFlag
  storagePlace : ∀ v, c.storagePlace = .given v → v.IsText
  volumes : ∃ volumes : List (List (String × Json)), c.volumes = .arr (volumes.map .obj) ∧
    ∀ fields ∈ volumes, IsVolume fields
  sortCandidates : c.sortCandidates.IsFlag

theorem default_isWellTyped : default.IsWellTyped where
  platformVersion := ⟨_, rfl⟩
  packageId := .inr ⟨_, rfl⟩
  preferRemovable := .inl rfl
  storagePlace v h := by contradiction
  volumes := ⟨[], rfl, by simp⟩
  sortCandidates := ⟨_, rfl⟩

namespace IsWellTyped

variable {c : Config} (h : c.IsWellTyped)
include h

theorem version_eq : ∃ n, c.version = .whole n := by
  obtain ⟨n, hn⟩ := h.platformVersion
  exact ⟨n, by rw [version, hn]; rfl⟩

theorem variant_eq : ∃ variant, c.package.variant = .ok variant := by
  rcases h.packageId with hnull | ⟨id, hid⟩
  · exact ⟨none, by rw [package, hnull]; rfl⟩
  · exact ⟨PackageId.variantOf id, by rw [package, hid]; rfl⟩

theorem storagePath_eq : ∃ path, c.storagePlace.path? = .ok path := by
  cases hplace : c.storagePlace with
  | nowhere => exact ⟨none, rfl⟩
  | path p => exact ⟨some p, rfl⟩
  | given v =>
    obtain ⟨s, rfl⟩ := h.storagePlace v hplace
    exact ⟨some (.ofText s), rfl⟩

theorem volumeEntries_eq : ∃ volumes : List (List (String × Json)),
    c.volumeEntries = .ok (volumes.map .obj) ∧ ∀ fields ∈ volumes, IsVolume fields := by
  obtain ⟨volumes, hvolumes, htyped⟩ := h.volumes
  exact ⟨volumes, by rw [volumeEntries, hvolumes], htyped⟩

end IsWellTyped

end Config

end BackupLocator
