import BackupLocator.Config.File
import BackupLocator.Proofs.Config
import BackupLocator.Proofs.FileSystem.Content
import BackupLocator.Proofs.Json.RoundTrip
import BackupLocator.Proofs.Path

/-!
# A saved configuration loads again

The value that is saved has a field for each field of the configuration. It is plain, so it reads
back from its text; the text reads back from its bytes, and the bytes from the file. The place of
the default storage is saved as a text and made a path again, and the other fields are kept as they
are.
-/

namespace BackupLocator

/-! ## Values of the kinds that are stored -/

namespace Json

/-- A value that is neither a floating-point number nor made of other values. -/
def isScalar : Json → Bool
  | .null | .bool _ | .int _ | .str _ => true
  | _ => false

variable {v : Json}

theorem isPlain_of_isScalar (h : v.isScalar = true) : v.isPlain = true := by
  cases v <;> simp_all [isScalar, isPlain]

theorem depth_of_isScalar (h : v.isScalar = true) : v.depth = 0 := by
  cases v <;> simp_all [isScalar, depth]

/-- A record: its names differ, and its values are scalars. -/
structure IsRecord (fields : List (String × Json)) : Prop where
  names : (fields.map Prod.fst).Nodup
  values : ∀ f ∈ fields, f.2.isScalar = true

variable {fields : List (String × Json)}

theorem IsRecord.isPlain (h : IsRecord fields) : (obj fields).isPlain = true := by
  rw [Json.isPlain, Bool.and_eq_true, decide_eq_true_eq, havePlainValues_iff]
  exact ⟨h.names, fun f hf => isPlain_of_isScalar (h.values f hf)⟩

theorem IsRecord.depth (h : IsRecord fields) : (obj fields).depth ≤ 1 := by
  rw [Json.depth, Nat.add_le_add_iff_right, depthOfFields_le_iff]
  exact fun f hf => Nat.le_zero.mpr (depth_of_isScalar (h.values f hf))

end Json

namespace Config

/-! ## The value that is saved -/

/-- A configuration with values of the kinds that a file holds. -/
structure IsStorable (c : Config) : Prop where
  platformVersion : ∃ n, c.platformVersion = .int n
  packageId : c.packageId = .null ∨ c.packageId.IsText
  preferRemovable : c.preferRemovable = .null ∨ c.preferRemovable.IsFlag
  storagePlace : ∀ v, c.storagePlace ≠ .given v
  volumes : ∃ records : List (List (String × Json)), c.volumes = .arr (records.map .obj) ∧
    ∀ fields ∈ records, Json.IsRecord fields
  sortCandidates : c.sortCandidates.IsFlag

/-- The object with a field for each field of a configuration. -/
def stored (c : Config) : Json :=
  .obj [
    ("platform_version", c.platformVersion),
    ("package_id", c.packageId),
    ("prefer_removable", c.preferRemovable),
    (placeField, savedPlace c.storagePlace),
    ("volumes", c.volumes),
    ("sort_candidates", c.sortCandidates)]

/-- An object is a record as it is. -/
theorem mapM_recordOf (records : List (List (String × Json))) :
    (records.map Json.obj).mapM recordOf = .ok (records.map Json.obj) := by
  induction records with
  | nil => rfl
  | cons fields records ih =>
    rw [List.map_cons, List.mapM_cons, ih]
    rfl

namespace IsStorable

variable {c : Config} (h : c.IsStorable)
include h

theorem scalars : c.platformVersion.isScalar = true ∧ c.packageId.isScalar = true ∧
    c.preferRemovable.isScalar = true ∧ (savedPlace c.storagePlace).isScalar = true ∧
    c.sortCandidates.isScalar = true := by
  obtain ⟨n, hn⟩ := h.platformVersion
  obtain ⟨b, hb⟩ := h.sortCandidates
  refine ⟨by rw [hn]; rfl, ?_, ?_, ?_, by rw [hb]; rfl⟩
  · rcases h.packageId with hnull | ⟨s, hs⟩
    · rw [hnull]; rfl
    · rw [hs]; rfl
  · rcases h.preferRemovable with hnull | ⟨b, hb⟩
    · rw [hnull]; rfl
    · rw [hb]; rfl
  · cases c.storagePlace <;> rfl

theorem toJson_eq : c.toJson = .ok c.stored := by
  obtain ⟨records, hrecords, -⟩ := h.volumes
  simp only [toJson, volumeEntries, stored, hrecords, bind, Except.bind, mapM_recordOf]
  rfl

/-- The volumes are plain, and nested to two levels. -/
theorem volumes_isPlain : c.volumes.isPlain = true ∧ c.volumes.depth ≤ 2 := by
  obtain ⟨records, hrecords, hrecord⟩ := h.volumes
  rw [hrecords, Json.isPlain, Json.arePlain_iff, Json.depth, Nat.add_le_add_iff_right,
    Json.depthOfItems_le_iff, List.forall_mem_map, List.forall_mem_map]
  exact ⟨fun fields hf => (hrecord fields hf).isPlain, fun fields hf => (hrecord fields hf).depth⟩

theorem stored_isPlain : c.stored.isPlain = true := by
  obtain ⟨hversion, hpackage, hpreference, hplace, hsort⟩ := h.scalars
  have hvolumes := h.volumes_isPlain.1
  rw [stored, Json.isPlain, Bool.and_eq_true, decide_eq_true_eq]
  refine ⟨by simp [placeField], ?_⟩
  simp [Json.havePlainValues, Json.isPlain_of_isScalar, *]

theorem depth_stored : c.stored.depth ≤ 3 := by
  obtain ⟨hversion, hpackage, hpreference, hplace, hsort⟩ := h.scalars
  have hvolumes := h.volumes_isPlain.2
  rw [stored, Json.depth, Nat.add_le_add_iff_right]
  simp only [Json.depthOfFields, Json.depth_of_isScalar, Nat.max_le, hversion, hpackage,
    hpreference, hplace, hsort, hvolumes, Nat.zero_le, and_self]

theorem ofJson_stored : ofJson c.stored = .ok c := by
  have hplace : placeOfFile (savedPlace c.storagePlace) = .ok c.storagePlace := by
    cases hs : c.storagePlace with
    | nowhere => rfl
    | path p => rw [savedPlace, placeOfFile, Path.ofText_text]
    | given v => exact absurd hs (h.storagePlace v)
  simp [stored, ofJson, areFieldNames, fieldNames, Json.lookup, placeField, hplace, withFields,
    setField, Except.map]

end IsStorable

/-! ## Saving, then loading -/

variable {c : Config} {fs fs' : FileSystem} {p : Path} {text : String}

/-- What a file holds, and that it has been written, once a configuration has been saved. -/
theorem save_eq_ok (h : c.save fs p = (.ok text, fs')) :
    ∃ v fs₁, c.toJson = .ok v ∧ v.isWritable = true ∧ text = Json.render .file v ∧
      FileSystem.write fs₁ p (Text.Utf8.encode text.toList) = .ok fs' := by
  unfold save at h
  split at h
  · simp at h
  rename_i fs₁ hparent
  split at h
  · simp at h
  rename_i v hv
  dsimp only at h
  split at h
  · simp at h
  rename_i fs₂ hwrite
  split at h
  · rename_i hwritable
    obtain ⟨htext, rfl⟩ := Prod.mk.inj h
    obtain rfl := Except.ok.inj htext
    exact ⟨v, fs₁, hv, hwritable, Json.renderStart_of_isWritable hwritable, hwrite⟩
  · simp at h

/-- A configuration that has been saved loads again as it was. -/
theorem load_save (hc : c.IsStorable) (h : c.save fs p = (.ok text, fs')) :
    load fs' p = .ok c := by
  obtain ⟨v, fs₁, hv, hwritable, htext, hwrite⟩ := save_eq_ok h
  obtain rfl : c.stored = v := Except.ok.inj (hc.toJson_eq.symm.trans hv)
  have hparse : Json.parse text.toList = .ok c.stored := by
    rw [htext, Json.render, String.toList_ofList]
    exact Json.parse_write Json.Style.file_escapesControls hc.stored_isPlain hwritable
      (Nat.le_trans hc.depth_stored (by decide))
  have hvalue : readValue (Text.Utf8.encode text.toList) = .ok c.stored := by
    rw [readValue, Text.Utf8.decode?_encode]
    simp only [hparse]
  simp only [load, FileSystem.isPresent_of_write hwrite, FileSystem.read_of_write hwrite, hvalue,
    bind, Except.bind]
  exact hc.ofJson_stored

/-- A configuration with a stick, whose description is escaped in every way. -/
def withStick : Config :=
  { default with
    storagePlace := .path (.ofText "/mnt/stick")
    volumes := .arr [.obj [("uuid", .str "AB12-34CD"), ("description", .str "\x00\n\"é\" 😀"),
      ("removable", .bool true), ("slot", .int (-7)), ("path", .null)]] }

theorem withStick_isStorable : withStick.IsStorable where
  platformVersion := ⟨_, rfl⟩
  packageId := .inr ⟨_, rfl⟩
  preferRemovable := .inl rfl
  storagePlace v h := by contradiction
  volumes := ⟨[_], rfl, by
    simp only [List.mem_singleton, forall_eq]
    exact ⟨by decide, by decide⟩⟩
  sortCandidates := ⟨_, rfl⟩

theorem load_save_with_stick : ∃ text fs',
    withStick.save .empty (.ofText "/etc/backups/config.json") = (.ok text, fs') ∧
      load fs' (.ofText "/etc/backups/config.json") = .ok withStick := by
  obtain ⟨text, fs', hsave⟩ : ∃ text fs',
      withStick.save .empty (.ofText "/etc/backups/config.json") = (.ok text, fs') := ⟨_, _, rfl⟩
  exact ⟨text, fs', hsave, load_save withStick_isStorable hsave⟩

end Config

end BackupLocator
