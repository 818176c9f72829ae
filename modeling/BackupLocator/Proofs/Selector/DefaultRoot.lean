import BackupLocator.Proofs.Platform.Unmounted
import BackupLocator.Proofs.Selector.Candidates

/-!
# Volumes at the place of the default storage

The default storage is no removable volume. But the list of removable roots is made from the fields
of the volumes alone, and no path in it is compared: a removable volume at the place of the default
storage, however its mount is written, is listed like any other and can be chosen. Where there is no
such volume, the path of the default root is not listed, and it is chosen only for want of a
removable root.
-/

namespace BackupLocator

namespace Platform

namespace Local

/-- A removable volume among some is mounted at a path. -/
def HasMountAt (fs : FileSystem) (volumes : List (List (String × Json))) (path : Path) : Prop :=
  ∃ fields ∈ volumes, isRemovable fields = true ∧ mount? fields = some path ∧
    fs.isDirectory path = .ok true

variable {fs : FileSystem} {volumes : List (List (String × Json))}
  {roots : List (Option StorageRoot)} {path : Path}

/-- A root is listed at a path if and only if a removable volume is mounted there. -/
theorem exists_root_at_iff (htyped : ∀ fields ∈ volumes, IsVolume fields)
    (h : removableRoots fs (volumes.map .obj) = .ok roots) :
    (∃ root, some root ∈ roots ∧ root.path = some path) ↔ HasMountAt fs volumes path := by
  constructor
  · rintro ⟨root, hmem, hpath⟩
    obtain ⟨fields, hentry, hremovable, hroot⟩ := (some_mem_removableRoots_iff h).mp hmem
    obtain ⟨_, hfields, ⟨⟩⟩ := List.mem_map.mp hentry
    obtain ⟨mount, hmount, hfound, rfl⟩ := (volumeRoot_eq_some_iff (htyped _ hfields)).mp hroot
    obtain rfl := Option.some.inj hpath
    exact ⟨fields, hfields, hremovable, hmount, hfound⟩
  · rintro ⟨fields, hfields, hremovable, hmount, hfound⟩
    have hroot := (volumeRoot_eq_some_iff (htyped fields hfields)).mpr ⟨path, hmount, hfound, rfl⟩
    have hmem := (some_mem_removableRoots_iff h).mpr
      ⟨fields, List.mem_map_of_mem hfields, hremovable, hroot⟩
    exact ⟨_, hmem, rfl⟩

end Local

/-- The path of the default root is listed among the removable roots if and only if a removable
volume is mounted there. Where none is, or where the path is marked as internal, a preference leads
to that path only if no removable root is tried, and then to the default root. -/
theorem default_path_is_listed_iff {c : Config} {volumes : List (List (String × Json))}
    {default : StorageRoot} (hvolumes : c.volumeEntries = .ok (volumes.map .obj))
    (htyped : ∀ fields ∈ volumes, IsVolume fields)
    (hdefault : (ofConfig c).defaultRoot = .ok (some default)) :
    ∃ path, default.path = some path ∧
      (∀ fs roots, (ofConfig c).externalRoots fs = .ok roots →
        ((∃ root, some root ∈ roots ∧ root.path = default.path) ↔
          Local.HasMountAt fs volumes path)) ∧
      ∀ (sel : Selector) (s : Session) (site : Site), sel.platform = ofConfig c →
        ¬Local.HasMountAt s.files volumes path ∨ path.isEmulated = true →
        ((sel.selectRoot true).run s).1 = .ok site → site.path = path →
        sel.TriesFirst true s none ∧ (sel.defaultRoot.run s).1 = .ok site := by
  obtain ⟨path?, -, hpath⟩ := Failure.map_eq_ok_iff.mp hdefault
  obtain ⟨path, rfl, rfl⟩ := Option.map_eq_some_iff.mp hpath
  refine ⟨path, rfl, ?_, ?_⟩
  · intro fs roots hroots
    rw [externalRoots_eq hvolumes] at hroots
    exact Local.exists_root_at_iff htyped hroots
  · rintro sel s site hplatform hfree hselect rfl
    refine (Selector.selectRoot_eq_ok hselect).resolve_left fun htries => ?_
    -- A root that is tried is listed, so a volume is mounted there, and it is not marked.
    obtain ⟨roots, hroots, hsite⟩ := sel.mem_removableSites_of_preferred htries.preferred_eq
    rw [hplatform, externalRoots_eq hvolumes] at hroots
    have hmark := (List.mem_filter.mp hsite).2
    have hmem := (mem_removableSites_iff.mp hsite).1
    rcases hfree with hfree | hemulated
    · exact hfree ((Local.exists_root_at_iff htyped hroots).mp ⟨site.root, hmem, rfl⟩)
    · simp [hemulated] at hmark

/-- A stick that is not there, so that the card is chosen as the default root. -/
theorem default_path_is_listed_iff_without_stick :
    let sel : Selector := ⟨ofConfig (configAt "/stick"), false⟩
    let s := Session.start Card.empty
    sel.platform.externalRoots s.files = .ok [none] ∧
      ∃ site, ((sel.selectRoot true).run s).1 = .ok site ∧ site.path = Card.path ∧
        sel.TriesFirst true s none ∧ (sel.defaultRoot.run s).1 = .ok site := by
  intro sel s
  have htyped : ∀ fields ∈ [volumeAt "/stick"], IsVolume fields := by
    simpa using volumeAt_isVolume "/stick"
  obtain ⟨path, hpath, hlisted, hchosen⟩ := default_path_is_listed_iff
    (rfl : (configAt "/stick").volumeEntries = .ok ([volumeAt "/stick"].map .obj)) htyped
    (rfl : (ofConfig (configAt "/stick")).defaultRoot =
      .ok (some ⟨some Card.path, .null, .str Local.primaryDescription⟩))
  obtain rfl : Card.path = path := Option.some.inj hpath
  have hroots : sel.platform.externalRoots s.files = .ok [none] := rfl
  have hfree : ¬Local.HasMountAt s.files [volumeAt "/stick"] Card.path :=
    mt (hlisted s.files [none] hroots).mpr (by simp)
  have hselect : ((sel.selectRoot true).run s).1 =
      .ok ⟨Card.path, .null, .str Local.primaryDescription⟩ := rfl
  exact ⟨hroots, _, hselect, rfl, hchosen sel s _ rfl (.inl hfree) hselect rfl⟩

/-- The mount of a volume is another text for the path of the default storage. Its root is listed at
that path, and chosen before the default root. -/
theorem default_path_is_listed :
    let sel : Selector := ⟨ofConfig (configAt "/sdcard/."), false⟩
    let s := Session.start Card.empty
    (configAt "/sdcard/.").IsWellTyped ∧
      sel.platform.defaultRoot =
        .ok (some ⟨some Card.path, .null, .str Local.primaryDescription⟩) ∧
      sel.platform.externalRoots s.files = .ok [some ⟨some Card.path, .null, .str ""⟩] ∧
      ((sel.selectRoot true).run s).1 = .ok ⟨Card.path, .null, .str ""⟩ ∧
      (sel.defaultRoot.run s).1 = .ok ⟨Card.path, .null, .str Local.primaryDescription⟩ :=
  ⟨configAt_isWellTyped "/sdcard/.", rfl, rfl, rfl, rfl⟩

end Platform

end BackupLocator
