import BackupLocator.Proofs.Config
import BackupLocator.Proofs.FileSystem.Lookup
import BackupLocator.Proofs.Platform

/-!
# What becomes of a handle

A platform of configured volumes reads a handle first, and only then asks whether there is a
directory where it leads. So a handle that leads to a directory still does when directories have
been added. A handle that leads to none is refused as a handle, with two exceptions: it is an
address that cannot be read, or it leads to a path that is too long.
-/

namespace BackupLocator

/-! ## Addresses that cannot be read -/

namespace Handle

/-- A handle is an address whose authority is not right. -/
def IsMalformed (handle : String) : Prop :=
  isAddress handle = true ∧ pathOfAddress? handle.toList = none

theorem documentId_eq_error_iff {handle : String} {e : Failure} :
    documentId handle = .error e ↔ IsMalformed handle ∧ e = .malformed := by
  unfold documentId IsMalformed
  split
  · rename_i haddress
    cases pathOfAddress? handle.toList <;> simp [haddress, eq_comm]
  · rename_i haddress
    simp [haddress]

/-- A character that may be a fault in an authority: a bracket, or another form of a delimiter. -/
def IsSuspect (c : Char) : Prop := c = '[' ∨ c = ']' ∨ c.toNat ∈ delimiterForms

/-- An authority without such characters is right. -/
theorem isAuthority_of_not_isSuspect {authority : List Char}
    (h : ∀ c ∈ authority, ¬IsSuspect c) : isAuthority authority = true := by
  have hopen : authority.contains '[' = false := by
    simpa using fun hmem => h '[' hmem (.inl rfl)
  have hclose : authority.contains ']' = false := by
    simpa using fun hmem => h ']' hmem (.inr (.inl rfl))
  have hforms : ∀ c ∈ authority, c.toNat ∉ delimiterForms :=
    fun c hc hform => h c hc (.inr (.inr hform))
  rw [isAuthority, areBracketsRight, hopen, hclose]
  simpa using hforms

/-- An address without such characters can be read. -/
theorem not_isMalformed {handle : String} (h : ∀ c ∈ handle.toList, ¬IsSuspect c) :
    ¬IsMalformed handle := by
  rintro ⟨-, hpath⟩
  unfold pathOfAddress? at hpath
  dsimp only at hpath
  rw [if_pos] at hpath
  · contradiction
  · apply isAuthority_of_not_isSuspect
    intro c hc
    have hkept := List.mem_of_mem_drop ((List.takeWhile_sublist _).subset hc)
    exact h c (List.mem_filter.mp hkept).1

end Handle

/-! ## Handles that are kept -/

/-- Where a handle leads in the files `fs`, it still leads in `fs'`. -/
def Platform.KeepsHandle (p : Platform) (handle : String) (fs fs' : FileSystem) : Prop :=
  ∀ path, p.handlePath fs handle = .ok path → p.handlePath fs' handle = .ok path

/-- A path that is written down stays so. -/
theorem PlatformTable.platform_keepsHandle (t : PlatformTable) (env : Environment)
    (handle : String) (fs fs' : FileSystem) : (t.platform env).KeepsHandle handle fs fs' :=
  fun _ h => h

namespace Platform

namespace Local

/-! ## Reading a handle -/

/-- The path that a handle leads to, whether there is a directory or not. -/
def handleTarget (c : Config) (handle : String) : Except Failure Path :=
  if handle = "" then .error (.badHandle .missing)
  else do
    let id ← Handle.documentId handle
    let tag := Handle.volumeTag id
    let mount ← mountOf c tag
    if mount = .nowhere then .error (.badHandle (.unknownVolume tag handle))
    let relative := Path.ofText (Handle.relativePath id)
    if relative.isAbsolute ∨ ".." ∈ relative.parts then
      .error (.badHandle (.escapes tag handle))
    match ← mount.path? with
    | none => .error (.badHandle (.unknownVolume tag handle))
    | some base => return base.join relative

theorem handlePath_eq (c : Config) (fs : FileSystem) (handle : String) :
    handlePath c fs handle = (handleTarget c handle).bind fun path =>
      (fs.isDirectory path).bind fun found =>
        if found then .ok path else .error (.badHandle (.inaccessible handle path)) := by
  unfold handlePath handleTarget
  split
  · rfl
  cases hid : Handle.documentId handle with
  | error e => rfl
  | ok id =>
    cases hmount : mountOf c (Handle.volumeTag id) with
    | error e => simp only [bind, Except.bind, hmount]
    | ok mount =>
      simp only [bind, Except.bind, hmount]
      split
      · rfl
      split
      · rfl
      rcases mount.path? with e | _ | base
      · rfl
      · rfl
      · simp only [pure, Except.pure]

/-- A handle that leads to a directory of configured volumes leads there as long as that is one. -/
theorem handlePath_eq_ok_iff {c : Config} {fs : FileSystem} {handle : String} {path : Path} :
    handlePath c fs handle = .ok path ↔
      handleTarget c handle = .ok path ∧ fs.isDirectory path = .ok true := by
  rw [handlePath_eq, Failure.bind_eq_ok_iff]
  constructor
  · rintro ⟨target, htarget, h⟩
    obtain ⟨found, hfound, h⟩ := Failure.bind_eq_ok_iff.mp h
    cases found with
    | false => contradiction
    | true =>
      obtain rfl := Except.ok.inj h
      exact ⟨htarget, hfound⟩
  · rintro ⟨htarget, hfound⟩
    exact ⟨path, htarget, by rw [hfound]; rfl⟩

/-! ## Volumes -/

/-- Among fields of volumes the first one of an identity is found. -/
theorem findVolume_map_obj (tag : String) (volumes : List (List (String × Json))) :
    findVolume tag (volumes.map .obj) =
      .ok (volumes.find? fun fields => Json.lookup "uuid" fields = some (.str tag)) := by
  induction volumes with
  | nil => rfl
  | cons fields volumes ih =>
    rw [List.map_cons, List.find?_cons]
    by_cases hfound : Json.lookup "uuid" fields = some (.str tag)
    · simp only [findVolume, fieldsOf, bind, Except.bind, hfound, if_true, decide_true]
      rfl
    · simp only [findVolume, fieldsOf, bind, Except.bind, hfound, if_false, decide_false, ih]

variable {c : Config}

/-- Where the fields of volumes are of their kinds, a description is a text, if there is one. -/
theorem description_eq {volumes : List (List (String × Json))}
    (hvolumes : c.volumeEntries = .ok (volumes.map .obj))
    (htyped : ∀ fields ∈ volumes, IsVolume fields) (tag : String) :
    description c tag = .ok .null ∨ ∃ text, description c tag = .ok (.str text) := by
  simp only [description, hvolumes, findVolume_map_obj, bind, Except.bind]
  split
  · rename_i fields hfind
    have hfields := htyped fields (List.mem_of_find?_eq_some hfind)
    cases hdescription : Json.lookup "description" fields with
    | none => exact .inl rfl
    | some v =>
      obtain ⟨text, rfl⟩ := hfields.description v hdescription
      exact .inr ⟨text, rfl⟩
  · exact .inl rfl

/-- Where values are of their kinds, a volume lies at a path or nowhere. -/
theorem mountOf_isPath (hc : c.IsWellTyped) (tag : String) :
    ∃ mount path, mountOf c tag = .ok mount ∧ mount.path? = .ok path := by
  unfold mountOf
  split
  · obtain ⟨path, hpath⟩ := hc.storagePath_eq
    exact ⟨c.storagePlace, path, rfl, hpath⟩
  obtain ⟨volumes, hvolumes, htyped⟩ := hc.volumeEntries_eq
  simp only [hvolumes, bind, Except.bind, findVolume_map_obj]
  cases hfind : volumes.find? fun fields => Json.lookup "uuid" fields = some (.str tag) with
  | none => exact ⟨.nowhere, none, rfl, rfl⟩
  | some fields =>
    have hfields := htyped fields (List.mem_of_find?_eq_some hfind)
    cases hmount : Json.lookup "path" fields with
    | none => exact ⟨.nowhere, none, by simp [hmount]; rfl, rfl⟩
    | some v =>
      obtain ⟨s, rfl⟩ := hfields.path v hmount
      exact ⟨.given (.str s), some (.ofText s), by simp [hmount]; rfl, rfl⟩

/-! ## Handles that are not refused as such -/

variable {fs : FileSystem} {handle : String} {e : Failure}

/-- Where values are of their kinds, a handle can be read unless it is malformed. -/
theorem handleTarget_eq_error (hc : c.IsWellTyped) (h : handleTarget c handle = .error e) :
    (∃ fault, e = .badHandle fault) ∨ Handle.IsMalformed handle ∧ e = .malformed := by
  unfold handleTarget at h
  split at h
  · exact .inl ⟨_, (Except.error.inj h).symm⟩
  cases hid : Handle.documentId handle with
  | error e' =>
    rw [hid] at h
    obtain rfl : e' = e := Except.error.inj h
    exact .inr (Handle.documentId_eq_error_iff.mp hid)
  | ok id =>
    obtain ⟨mount, path, hmount, hpath⟩ := mountOf_isPath hc (Handle.volumeTag id)
    simp only [hid, hmount, hpath, bind, Except.bind] at h
    split at h
    · exact .inl ⟨_, (Except.error.inj h).symm⟩
    split at h
    · exact .inl ⟨_, (Except.error.inj h).symm⟩
    cases path with
    | none => exact .inl ⟨_, (Except.error.inj h).symm⟩
    | some base => contradiction

theorem handleTarget_of_isMalformed (h : Handle.IsMalformed handle) :
    handleTarget c handle = .error .malformed := by
  have hne : handle ≠ "" := by
    rintro rfl
    exact absurd h.1 (by decide)
  rw [handleTarget, if_neg hne, Handle.documentId_eq_error_iff.mpr ⟨h, rfl⟩]
  rfl

/-- What a platform of configured volumes can answer to a handle, each failure with its reason. -/
theorem handlePath_eq_error (hc : c.IsWellTyped) (h : handlePath c fs handle = .error e) :
    (∃ fault, e = .badHandle fault) ∨ (Handle.IsMalformed handle ∧ e = .malformed) ∨
      ∃ path, handleTarget c handle = .ok path ∧ fs.IsTooLong path ∧
        e = .system ⟨.nameTooLong, path⟩ := by
  rw [handlePath_eq] at h
  cases htarget : handleTarget c handle with
  | error e' =>
    rw [htarget] at h
    obtain rfl : e' = e := Except.error.inj h
    rcases handleTarget_eq_error hc htarget with hfault | hmalformed
    · exact .inl hfault
    · exact .inr (.inl hmalformed)
  | ok path =>
    rw [htarget] at h
    cases hfound : fs.isDirectory path with
    | error e' =>
      simp only [Except.bind, hfound] at h
      obtain rfl : e' = e := Except.error.inj h
      obtain ⟨hlong, rfl⟩ := FileSystem.isDirectory_eq_error_iff.mp hfound
      exact .inr (.inr ⟨path, rfl, hlong, rfl⟩)
    | ok found =>
      simp only [Except.bind, hfound] at h
      cases found with
      | false => exact .inl ⟨_, (Except.error.inj h).symm⟩
      | true => contradiction

end Local

/-- A directory that is there stays, and the handle is read without the files. -/
theorem ofConfig_keepsHandle (c : Config) (handle : String) {fs fs' : FileSystem}
    (hx : fs.Extension fs') : (ofConfig c).KeepsHandle handle fs fs' := by
  intro path h
  obtain ⟨htarget, hfound⟩ := Local.handlePath_eq_ok_iff.mp h
  exact Local.handlePath_eq_ok_iff.mpr ⟨htarget, hx.isDirectory hfound⟩

/-- Where values are of their kinds, a handle that leads to no path is refused as a handle if and
only if it can be read and does not lead to a path that is too long. -/
theorem handle_is_found_or_refused_iff {c : Config} (hc : c.IsWellTyped) (fs : FileSystem)
    (handle : String) :
    ((∃ path, (ofConfig c).handlePath fs handle = .ok path) ∨
        ∃ fault, (ofConfig c).handlePath fs handle = .error (.badHandle fault)) ↔
      ¬Handle.IsMalformed handle ∧
        ∀ path, Local.handleTarget c handle = .ok path → ¬fs.IsTooLong path := by
  have hpath : (ofConfig c).handlePath = Local.handlePath c := rfl
  rw [hpath]
  constructor
  · intro h
    constructor
    · intro hmalformed
      simp [Local.handlePath_eq, Local.handleTarget_of_isMalformed hmalformed, Except.bind] at h
    · intro path htarget hlong
      have hfound := FileSystem.isDirectory_eq_error_iff.mpr ⟨hlong, rfl⟩
      simp [Local.handlePath_eq, htarget, hfound, Except.bind] at h
  · rintro ⟨hwell, hshort⟩
    cases h : Local.handlePath c fs handle with
    | ok path => exact .inl ⟨path, rfl⟩
    | error e =>
      rcases Local.handlePath_eq_error hc h with ⟨fault, rfl⟩ | ⟨hmalformed, -⟩ |
        ⟨path, htarget, hlong, -⟩
      · exact .inr ⟨fault, rfl⟩
      · exact absurd hmalformed hwell
      · exact absurd hlong (hshort path htarget)

/-- An address for a directory that is not there is refused. -/
theorem handle_is_found_or_refused_on_address :
    let handle := "content://documents/tree/primary%3ADocuments"
    Local.handleTarget .default handle = .ok (.ofText "/storage/emulated/0/Documents") ∧
      ((∃ path, (ofConfig .default).handlePath .empty handle = .ok path) ∨
        ∃ fault, (ofConfig .default).handlePath .empty handle = .error (.badHandle fault)) := by
  have htarget : Local.handleTarget .default "content://documents/tree/primary%3ADocuments" =
      .ok (.ofText "/storage/emulated/0/Documents") := rfl
  have hread : ¬Handle.IsMalformed "content://documents/tree/primary%3ADocuments" := by
    rintro ⟨-, hnone⟩
    exact absurd hnone (by decide)
  refine ⟨htarget, (handle_is_found_or_refused_iff Config.default_isWellTyped _ _).mpr
    ⟨hread, ?_⟩⟩
  intro path hpath
  obtain rfl := Except.ok.inj (htarget.symm.trans hpath)
  have hprobe : FileSystem.empty.isDirectory (.ofText "/storage/emulated/0/Documents") =
      .ok false := rfl
  exact FileSystem.not_isTooLong_of_isDirectory hprobe

/-- An address with an unpaired bracket leads to no path, and is not refused as a handle. -/
theorem handle_is_neither_found_nor_refused :
    Config.default.IsWellTyped ∧
      (ofConfig .default).handlePath .empty "content://[/tree/primary%3A" = .error .malformed :=
  ⟨Config.default_isWellTyped, rfl⟩

end Platform

end BackupLocator
