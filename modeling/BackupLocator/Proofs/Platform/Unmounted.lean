import BackupLocator.Proofs.FileSystem.Ancestor
import BackupLocator.Proofs.Platform.Mount
import BackupLocator.Proofs.Platform.Volumes

/-!
# Handles of volumes that are not mounted

Two questions tell whether a volume is mounted: its root is listed where there is a directory at its
mount, and a handle for it leads somewhere where there is a directory on its mount. The mount is on
the way to that directory, so the first answer follows from the second. They part only over the
empty text, which is no mount for the list and stands for the working directory in a handle.
-/

namespace BackupLocator

/-! ## Ids and their volumes -/

theorem Handle.documentId_of_bare {handle : String} (h : isAddress handle = false) :
    documentId handle = .ok handle := by
  rw [documentId, h]
  rfl

theorem Anchor.ofText_slash (s : List Char) : Anchor.ofText ('/' :: s) ≠ .relative := by
  unfold Anchor.ofText
  split <;> simp_all

/-- An id of a tag and a relative path is no address: in an address two slashes stand behind the
first colon. -/
theorem Handle.isAddress_of_relative {tag rest : String} (hcolon : ':' ∉ tag.toList)
    (hrelative : (Path.ofText rest).isAbsolute = false) :
    isAddress (tag ++ ":" ++ rest) = false := by
  rw [Bool.eq_false_iff]
  intro haddress
  obtain ⟨t, ht⟩ := List.isPrefixOf_iff_prefix.mp haddress
  have hid : (tag ++ ":" ++ rest).toList = tag.toList ++ ':' :: rest.toList := by simp
  have hbehind : (tag.toList ++ ':' :: rest.toList).dropWhile (· ≠ ':') = ':' :: rest.toList := by
    rw [List.dropWhile_append_of_pos (by grind)]
    simp
  rw [← hid, ← ht] at hbehind
  have hrest : '/' :: '/' :: t = rest.toList := (List.cons.inj hbehind).2
  have hslash := Anchor.ofText_slash ('/' :: t)
  rw [hrest] at hslash
  simp [Path.isAbsolute, Path.ofText, hslash] at hrelative

/-- The tag of an id is what stands before its first colon. -/
theorem Handle.volumeTag_append {tag : String} (h : ':' ∉ tag.toList) (rest : String) :
    volumeTag (tag ++ ":" ++ rest) = tag := by
  have hcut : Text.beforeFirst ':' (tag.toList ++ ':' :: rest.toList) = tag.toList := by
    rw [Text.beforeFirst_append h]
    simp [Text.beforeFirst]
  rw [volumeTag]
  simp [hcut]

namespace Platform

namespace Local

variable {c : Config} {fs : FileSystem} {entries : List Json} {fields : List (String × Json)}
  {tag : String}

/-- The volume of a tag is mounted at no other place than its fields say. -/
theorem Mounts.text_of_isFirstVolume {base : Path} (h : Mounts c tag base)
    (htag : tag ≠ primaryTag) (hentries : c.volumeEntries = .ok entries)
    (hfirst : IsFirstVolume tag entries fields) :
    ∃ text, Json.lookup "path" fields = some (.str text) ∧ base = .ofText text := by
  cases h with
  | primary => exact absurd rfl htag
  | @volume _ text entries' fields' _ hentries' hfirst' hpath =>
    obtain rfl : entries = entries' := Except.ok.inj (hentries.symm.trans hentries')
    have hfound := findVolume_eq_some_iff.mpr hfirst
    have hfound' := findVolume_eq_some_iff.mpr hfirst'
    obtain rfl : fields = fields' := by simpa [hfound] using hfound'
    exact ⟨text, hpath, rfl⟩

/-- Of a volume with a directory at its mount the root is listed, unless the mount is an empty
text. -/
theorem volumeRoot_of_isDirectory {text : String}
    (hpath : Json.lookup "path" fields = some (.str text))
    (hfound : fs.isDirectory (.ofText text) = .ok true) :
    volumeRoot fs fields = .ok (if text = "" then none else
      some ⟨some (.ofText text), .null, (Json.lookup "description" fields).getD (.str "")⟩) := by
  rw [volumeRoot_of_path hpath, hfound]
  split <;> rfl

/-- Where a handle leads to a path, there is a directory at the mount of its volume. -/
theorem isDirectory_of_handlePath {handle id : String} {path : Path}
    (htag : Handle.volumeTag id ≠ primaryTag) (hentries : c.volumeEntries = .ok entries)
    (hfirst : IsFirstVolume (Handle.volumeTag id) entries fields)
    (hid : Handle.documentId handle = .ok id) (h : handlePath c fs handle = .ok path) :
    ∃ text, Json.lookup "path" fields = some (.str text) ∧
      (Path.ofText text).IsAtOrAbove path ∧ fs.isDirectory (.ofText text) = .ok true := by
  obtain ⟨base, hbase, hrelative, -, hpath, hfound⟩ := handlePath_eq_ok h hid
  have hmounts : Mounts c (Handle.volumeTag id) base := mountOf_eq_some_iff.mp hbase
  obtain ⟨text, htext, rfl⟩ := hmounts.text_of_isFirstVolume htag hentries hfirst
  have habove : (Path.ofText text).IsAtOrAbove path := by
    obtain ⟨hanchor, hparts⟩ := Path.join_continues (p := .ofText text) hrelative
    rw [← hpath] at hanchor hparts
    exact ⟨hanchor.symm, hparts ▸ List.prefix_append _ _⟩
  exact ⟨text, htext, habove, FileSystem.isDirectory_of_isAtOrAbove habove hfound⟩

end Local

/-- A handle of a volume leads only to directories at its mount or below, and there is a directory
at the mount. So the volume is listed as mounted, unless its mount is an empty text: then it is
listed as missing. -/
theorem volume_of_handle_isMounted_iff {c : Config} {fs : FileSystem} {entries : List Json}
    {fields : List (String × Json)} {tag rest : String} {path : Path}
    (hentries : c.volumeEntries = .ok entries) (hfirst : Local.IsFirstVolume tag entries fields)
    (htag : tag ≠ Local.primaryTag) (hcolon : ':' ∉ tag.toList)
    (hrelative : (Path.ofText rest).isAbsolute = false)
    (h : (ofConfig c).handlePath fs (tag ++ ":" ++ rest) = .ok path) :
    ∃ text, Json.lookup "path" fields = some (.str text) ∧
      (Path.ofText text).IsAtOrAbove path ∧
      ((∃ root, Local.volumeRoot fs fields = .ok (some root) ∧
          root.path = some (.ofText text)) ↔ text ≠ "") ∧
      (Local.volumeRoot fs fields = .ok none ↔ text = "") := by
  have hvolume := Handle.volumeTag_append hcolon rest
  rw [← hvolume] at htag hfirst
  obtain ⟨text, hpath, habove, hmount⟩ := Local.isDirectory_of_handlePath htag hentries hfirst
    (Handle.documentId_of_bare (Handle.isAddress_of_relative hcolon hrelative)) h
  have hroot := Local.volumeRoot_of_isDirectory hpath hmount
  refine ⟨text, hpath, habove, ?_⟩
  by_cases hempty : text = ""
  · simp [hroot, hempty]
  · simp [hroot, hempty]

/-- The fields of a volume that is mounted as said. -/
def volumeAt (mount : String) : List (String × Json) :=
  [("uuid", .str "AB12-34CD"), ("path", .str mount)]

theorem volumeAt_isVolume (mount : String) : IsVolume (volumeAt mount) where
  uuid v h := ⟨_, by simpa [volumeAt, Json.lookup] using h.symm⟩
  description v h := by simp [volumeAt, Json.lookup] at h
  path v h := ⟨_, by simpa [volumeAt, Json.lookup] using h.symm⟩
  removable v h := by simp [volumeAt, Json.lookup] at h

theorem volumeAt_isFirstVolume (mount : String) :
    Local.IsFirstVolume "AB12-34CD" [.obj (volumeAt mount)] (volumeAt mount) :=
  ⟨[], [], rfl, by simp, rfl⟩

/-- A card, and a volume that is mounted as said. -/
def configAt (mount : String) : Config :=
  { Config.default with
    storagePlace := .path (.ofText "/sdcard")
    volumes := .arr [.obj (volumeAt mount)] }

theorem configAt_isWellTyped (mount : String) : (configAt mount).IsWellTyped :=
  { Config.default_isWellTyped with
    storagePlace := by simp [configAt]
    volumes := ⟨[volumeAt mount], rfl, by simpa using volumeAt_isVolume mount⟩ }

/-- A handle for a directory on a stick. -/
theorem volume_of_handle_isMounted_on_stick :
    let fs := { FileSystem.empty with
      entries := [(["stick"], .directory), (["Signal", "stick"], .directory)] }
    (ofConfig (configAt "/stick")).handlePath fs "AB12-34CD:Signal" =
        .ok (.ofText "/stick/Signal") ∧
      ∃ root, Local.volumeRoot fs (volumeAt "/stick") = .ok (some root) ∧
        root.path = some (.ofText "/stick") := by
  intro fs
  have h : (ofConfig (configAt "/stick")).handlePath fs ("AB12-34CD" ++ ":" ++ "Signal") =
      .ok (.ofText "/stick/Signal") := rfl
  obtain ⟨text, htext, -, hmounted, -⟩ := volume_of_handle_isMounted_iff
    (rfl : (configAt "/stick").volumeEntries = .ok [.obj (volumeAt "/stick")])
    (volumeAt_isFirstVolume "/stick") (by decide) (by decide) (by decide) h
  obtain rfl : "/stick" = text := Json.str.inj (Option.some.inj htext)
  exact ⟨h, hmounted.mpr (by decide)⟩

/-- The mount of a volume is an empty text. It is listed as missing, and a handle for it leads to the
working directory. -/
theorem handle_of_missing_volume_leads_somewhere :
    (configAt "").IsWellTyped ∧
      (ofConfig (configAt "")).externalRoots .empty = .ok [none] ∧
      Local.volumeRoot .empty (volumeAt "") = .ok none ∧
      Local.IsFirstVolume "AB12-34CD" [.obj (volumeAt "")] (volumeAt "") ∧
      (ofConfig (configAt "")).handlePath .empty "AB12-34CD:" = .ok (.ofText ".") :=
  ⟨configAt_isWellTyped "", rfl, rfl, volumeAt_isFirstVolume "", rfl⟩

end Platform

end BackupLocator
