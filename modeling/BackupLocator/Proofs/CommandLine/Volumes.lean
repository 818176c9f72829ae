import BackupLocator.CommandLine
import BackupLocator.Proofs.Platform.Unmounted
import BackupLocator.Proofs.Selector.Candidates

/-!
# The table of volumes

The table has a row for each volume, whether it is removable and mounted or not, and says of each
which it is. It is made from the texts of the fields; the roots that can be chosen are made from
paths, by the platform and the selector in turn. Both come to the same: the rows that say of a volume
that it is removable and mounted are, in their order, those of the candidates.
-/

namespace BackupLocator

namespace CommandLine

/-! ## Rows -/

/-- The row of the default storage, if there is one. -/
def defaultRows (c : Config) (fs : FileSystem) : Except Failure (List (List Json)) := do
  match ← Platform.Local.defaultRoot c with
  | some root => (defaultCells fs root).map fun cells => [cells]
  | none => .ok []

/-- The rows of the table of volumes, the default storage first. -/
def volumeRows (c : Config) (fs : FileSystem) : Except Failure (List (List Json)) := do
  let first ← defaultRows c fs
  let others ← (← c.volumeEntries).mapM (volumeCells fs)
  return first ++ others

/-- The path in a row that says of its volume that it is removable and mounted. -/
def usablePath? : List Json → Option Path
  | [_, _, .str mount, removable, mounted] =>
    if removable = yesNo true ∧ mounted = yesNo true then some (.ofText mount) else none
  | _ => none

variable {c : Config} {fs : FileSystem} {fields : List (String × Json)} {row : List Json}
  {rows : List (List Json)}

/-- What is printed is the table of the rows. -/
theorem volumes_eq (c : Config) (fs : FileSystem) :
    volumes c fs = do
      let rows ← volumeRows c fs
      let table ← volumeTable rows
      return (0, .table table) := by
  unfold volumes volumeRows defaultRows
  rcases Platform.Local.defaultRoot c with e | _ | root
  · rfl
  · simp only [Failure.ok_bind, bind_assoc, pure_bind]
  · simp only [Failure.ok_bind, bind_assoc, pure_bind]

/-- The default storage is not removable. -/
theorem filterMap_usablePath?_of_defaultRows (h : defaultRows c fs = .ok rows) :
    rows.filterMap usablePath? = [] := by
  obtain ⟨_ | root, -, h⟩ := Failure.bind_eq_ok_iff.mp h
  · obtain rfl := Except.ok.inj h
    rfl
  · obtain ⟨row, hrow, rfl⟩ := Failure.map_eq_ok_iff.mp h
    obtain ⟨mounted, -, hrow⟩ := Failure.bind_eq_ok_iff.mp hrow
    obtain rfl := Except.ok.inj hrow
    simp [usablePath?, yesNo]

/-! ## One volume -/

/-- The fields of a volume name its mount by a text, be it empty. -/
theorem exists_mountText (h : IsVolume fields) :
    ∃ text, (Json.lookup "path" fields).getD (.str "") = .str text ∧
      Platform.Local.mount? fields = if text = "" then none else some (.ofText text) := by
  unfold Platform.Local.mount?
  cases hpath : Json.lookup "path" fields with
  | none => exact ⟨"", rfl, rfl⟩
  | some v =>
    obtain ⟨text, rfl⟩ := h.path v hpath
    exact ⟨text, rfl, rfl⟩

theorem isMounted_str (fs : FileSystem) (text : String) :
    isMounted fs (.str text) = if text = "" then .ok false else fs.isDirectory (.ofText text) := by
  by_cases hempty : text = ""
  · subst hempty
    rfl
  · rw [isMounted, if_pos (Json.truthy_str.mpr hempty), if_neg hempty]
    rfl

theorem volumeCells_eq {text : String}
    (h : (Json.lookup "path" fields).getD (.str "") = .str text) :
    volumeCells fs (.obj fields) = (isMounted fs (.str text)).map fun mounted =>
      [(Json.lookup "uuid" fields).getD (.str ""), (Json.lookup "description" fields).getD (.str ""),
        .str text,
        yesNo (Platform.Local.isRemovable fields && !(Path.ofText text).isEmulated),
        yesNo mounted] := by
  unfold volumeCells
  simp only [Platform.Local.fieldsOf, Failure.ok_bind, h, Json.shown, String.ofList_toList,
    isEmulated_ofText]
  cases isMounted fs (.str text) <;> rfl

/-- The row of a volume is usable if and only if its root is a candidate, and has its path. -/
theorem usablePath?_of_volumeCells (h : IsVolume fields)
    (hrow : volumeCells fs (.obj fields) = .ok row) :
    ∃ root?, Platform.Local.volumeRoot fs fields = .ok root? ∧
      usablePath? row = (if Platform.Local.isRemovable fields then candidate? root? else none).map
        (·.path) := by
  obtain ⟨text, htext, hmount⟩ := exists_mountText h
  rw [volumeCells_eq htext, isMounted_str] at hrow
  obtain ⟨mounted, hmounted, rfl⟩ := Failure.map_eq_ok_iff.mp hrow
  rw [Platform.Local.volumeRoot_eq h, hmount]
  by_cases hempty : text = ""
  · rw [if_pos hempty] at hmounted ⊢
    obtain rfl := Except.ok.inj hmounted
    exact ⟨none, rfl, by simp [usablePath?, yesNo, candidate?]⟩
  · rw [if_neg hempty] at hmounted ⊢
    dsimp only
    rw [hmounted]
    refine ⟨_, rfl, ?_⟩
    cases mounted with
    | false => simp [usablePath?, yesNo, candidate?]
    | true =>
      cases hremovable : Platform.Local.isRemovable fields <;>
        cases hmark : (Path.ofText text).isEmulated <;>
        simp [usablePath?, yesNo, candidate?, StorageRoot.site?, Option.filter_some, hmark]

/-! ## All volumes -/

/-- The usable rows of some volumes are those of the candidates among their roots, in their order. -/
theorem filterMap_usablePath?_of_mapM {configured : List (List (String × Json))}
    (htyped : ∀ fields ∈ configured, IsVolume fields)
    (h : (configured.map .obj).mapM (volumeCells fs) = .ok rows) :
    ∃ roots, Platform.Local.removableRoots fs (configured.map .obj) = .ok roots ∧
      rows.filterMap usablePath? = (removableSites roots).map (·.path) := by
  induction configured generalizing rows with
  | nil =>
    obtain rfl := Except.ok.inj h
    exact ⟨[], rfl, rfl⟩
  | cons fields configured ih =>
    rw [List.forall_mem_cons] at htyped
    rw [List.map_cons, List.mapM_cons] at h
    obtain ⟨row, hrow, h⟩ := Failure.bind_eq_ok_iff.mp h
    obtain ⟨others, hothers, h⟩ := Failure.bind_eq_ok_iff.mp h
    obtain rfl := Except.ok.inj h
    obtain ⟨root?, hroot, hpath⟩ := usablePath?_of_volumeCells htyped.1 hrow
    obtain ⟨roots, hroots, hpaths⟩ := ih htyped.2 hothers
    rw [List.map_cons, Platform.Local.removableRoots_cons, List.filterMap_cons, hpath, hpaths]
    by_cases hremovable : Platform.Local.isRemovable fields = true
    · refine ⟨root? :: roots, by rw [if_pos hremovable, hroot, hroots]; rfl, ?_⟩
      rw [if_pos hremovable, removableSites_cons]
      cases candidate? root? <;> rfl
    · exact ⟨roots, by rw [if_neg hremovable, hroots], by rw [if_neg hremovable]; rfl⟩

/-- Where the rows of the table of volumes can be told, so can the candidates. The paths in those
rows that say of a volume that it is removable and mounted are the paths of the candidates, in the
same order and as often. -/
theorem volumes_show_candidates {configured : List (List (String × Json))}
    (hvolumes : c.volumeEntries = .ok (configured.map .obj))
    (htyped : ∀ fields ∈ configured, IsVolume fields) (h : volumeRows c fs = .ok rows) :
    (volumes c fs = do
      let table ← volumeTable rows
      return (0, .table table)) ∧
    ∀ s : Session, s.files = fs → ∃ sites,
      ((Selector.mk (.ofConfig c) false).candidates.run s).1 = .ok sites ∧
        rows.filterMap usablePath? = sites.map (·.path) := by
  refine ⟨by rw [volumes_eq, h, Failure.ok_bind], ?_⟩
  rintro s rfl
  obtain ⟨first, hfirst, h⟩ := Failure.bind_eq_ok_iff.mp h
  obtain ⟨entries, hentries, h⟩ := Failure.bind_eq_ok_iff.mp h
  obtain ⟨others, hothers, h⟩ := Failure.bind_eq_ok_iff.mp h
  obtain rfl := Except.ok.inj h
  obtain rfl := Except.ok.inj (hvolumes.symm.trans hentries)
  obtain ⟨roots, hroots, hpaths⟩ := filterMap_usablePath?_of_mapM htyped hothers
  refine ⟨removableSites roots, ?_, ?_⟩
  · exact Selector.run_candidates ⟨.ofConfig c, false⟩
      ((Platform.externalRoots_eq hvolumes).trans hroots)
  · rw [List.filterMap_append, filterMap_usablePath?_of_defaultRows hfirst, hpaths]
    rfl

/-- A volume that is not mounted, one that is, and one whose path is marked as internal. -/
theorem volumes_show_candidates_on_stick :
    let configured := [Platform.volumeAt "/tape", Platform.volumeAt "/stick/.",
      Platform.volumeAt "/stick/emulated"]
    let c := { Platform.configAt "/tape" with volumes := .arr (configured.map .obj) }
    let fs := Card.withStick.add ["emulated", "stick"] .directory
    ∃ rows sites, volumeRows c fs = .ok rows ∧ rows.length = 4 ∧
      ((Selector.mk (.ofConfig c) false).candidates.run (.start fs)).1 = .ok sites ∧
      rows.filterMap usablePath? = sites.map (·.path) ∧
      sites.map (·.path) = [.ofText "/stick"] := by
  intro configured c fs
  have htyped : ∀ fields ∈ configured, IsVolume fields := by
    simp [configured, Platform.volumeAt_isVolume]
  obtain ⟨rows, hrows, hlength⟩ : ∃ rows, volumeRows c fs = .ok rows ∧ rows.length = 4 :=
    ⟨_, rfl, rfl⟩
  obtain ⟨-, hshow⟩ := volumes_show_candidates
    (rfl : c.volumeEntries = .ok (configured.map .obj)) htyped hrows
  obtain ⟨sites, hsites, hpaths⟩ := hshow (.start fs) rfl
  obtain rfl : [⟨.ofText "/stick", .null, .str ""⟩] = sites := Except.ok.inj hsites
  exact ⟨rows, _, hrows, hlength, hsites, hpaths, rfl⟩

end CommandLine

end BackupLocator
