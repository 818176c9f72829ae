import BackupLocator.Platform.Local
import BackupLocator.Proofs.Path

/-!
# Where the layout puts backups

The directory of a category is one segment below its application root, and that of a variant one
more, where the variant can be a segment. Variants that can are kept apart from each other and from
builds without one. A chosen directory `Backups` stands for its parent once: where that is called
`Backups` too, the categories lie in it.
-/

namespace BackupLocator

namespace Layout

section

variable (root : Path) (category : Category)

theorem withCategory_continues : (withCategory root category).Continues root [category.directory] :=
  Path.child_continues_iff.mpr (by cases category <;> exact ⟨by decide, by decide, by decide⟩)

theorem anchor_withCategory : (withCategory root category).anchor = root.anchor :=
  (withCategory_continues root category).1

theorem parts_withCategory :
    (withCategory root category).parts = root.parts ++ [category.directory] :=
  (withCategory_continues root category).2

theorem legacyRoot_continues : (legacyRoot root).Continues root [applicationName] :=
  Path.child_continues_iff.mpr ⟨by decide, by decide, by decide⟩

theorem parts_legacyRoot : (legacyRoot root).parts = root.parts ++ [applicationName] :=
  (legacyRoot_continues root).2

end

/-! ## Variants -/

section

variable {package package' : PackageId} {variant variant' : Option String} {root : Path}
  {category category' : Category}

theorem backupPath_eq (h : package.variant = .ok variant) (root : Path) (category : Category) :
    backupPath package root category =
      .ok (variant.elim (withCategory root category) (withCategory root category).child) := by
  rw [backupPath, withVariant, h]
  cases variant <;> rfl

theorem flattenedRoot_eq (h : package.variant = .ok variant) (root : Path) :
    flattenedRoot package root = .ok (variant.elim (legacyRoot root) root.child) := by
  rw [flattenedRoot, h]
  cases variant <;> rfl

/-- The backups of a build lie one segment below the directory of the category, named as its
variant, if and only if the variant can be a segment. -/
theorem backupPath_continues_iff (h : package.variant = .ok variant) (root : Path)
    (category : Category) :
    (∃ path, backupPath package root category = .ok path ∧
        path.Continues root (category.directory :: variant.toList)) ↔
      ∀ name ∈ variant, IsSegment name := by
  have hcategory := withCategory_continues root category
  simp only [backupPath_eq h, Except.ok.injEq, exists_eq_left']
  cases variant with
  | none => simpa using hcategory
  | some name =>
    simp only [Option.elim_some, Option.toList_some, Option.mem_some_iff, forall_eq']
    constructor
    · rintro ⟨-, hparts⟩
      have hmem : name ∈ ((withCategory root category).child name).parts := by simp [hparts]
      exact Path.segments _ name hmem
    · intro hname
      exact (Path.child_continues_iff.mpr hname).trans hcategory

/-- So does the directory of the older layout, in the place of that of the application. -/
theorem flattenedRoot_continues_iff (h : package.variant = .ok variant) (root : Path) :
    (∃ path, flattenedRoot package root = .ok path ∧
        path.Continues root [variant.getD applicationName]) ↔
      ∀ name ∈ variant, IsSegment name := by
  simp only [flattenedRoot_eq h, Except.ok.injEq, exists_eq_left']
  cases variant with
  | none => simpa using legacyRoot_continues root
  | some name => simpa using Path.child_continues_iff

/-- Where the directory of a category can be told, so can that of the older layout: it is the other
one with segments left out. -/
theorem exists_flattenedRoot {path : Path}
    (hpath : backupPath package (legacyRoot root) category = .ok path) :
    ∃ older, flattenedRoot package root = .ok older ∧ older.IsPartOf path := by
  cases h : package.variant with
  | error e => simp [backupPath, withVariant, h, Except.map] at hpath
  | ok variant =>
    rw [backupPath_eq h] at hpath
    obtain rfl := Except.ok.inj hpath
    refine ⟨_, flattenedRoot_eq h root, ?_⟩
    have hcategory := withCategory_continues (legacyRoot root) category
    cases variant with
    | none => exact hcategory.isPartOf
    | some name => exact (hcategory.trans (legacyRoot_continues root)).isPartOf.child name

/-- Builds whose variants can be segments share no directory of backups unless they have the same
variant. -/
theorem variant_eq_of_shared (h : package.variant = .ok variant)
    (h' : package'.variant = .ok variant') (hnames : ∀ name ∈ variant, IsSegment name)
    (hnames' : ∀ name ∈ variant', IsSegment name)
    (hshared : backupPath package' root category' = backupPath package root category) :
    variant' = variant := by
  obtain ⟨path, hpath, hcontinues⟩ := (backupPath_continues_iff h root category).mpr hnames
  obtain ⟨path', hpath', hcontinues'⟩ := (backupPath_continues_iff h' root category').mpr hnames'
  obtain rfl : path' = path := Except.ok.inj (hpath'.symm.trans (hshared.trans hpath))
  have hlists := (List.cons.inj (hcontinues'.names_inj hcontinues)).2
  cases variant <;> cases variant' <;> simp_all

end

/-- A variant adds exactly one segment to the directory of a category, and to the root of the older
layout, if and only if it can be a segment. Where variants can, builds of other variants, or of
none, have other directories for all their categories. -/
theorem variant_adds_segment_iff {package : PackageId} {variant : Option String}
    (h : package.variant = .ok variant) (root : Path) (category : Category) :
    ((∃ path, backupPath package root category = .ok path ∧
        path.Continues root (category.directory :: variant.toList)) ↔
      ∀ name ∈ variant, IsSegment name) ∧
    ((∃ path, flattenedRoot package root = .ok path ∧
        path.Continues root [variant.getD applicationName]) ↔
      ∀ name ∈ variant, IsSegment name) ∧
    ((∀ name ∈ variant, IsSegment name) →
      ∀ package' variant' category', PackageId.variant package' = .ok variant' →
        (∀ name ∈ variant', IsSegment name) → variant' ≠ variant →
          backupPath package' root category' ≠ backupPath package root category) := by
  refine ⟨backupPath_continues_iff h root category, flattenedRoot_continues_iff h root, ?_⟩
  intro hnames package' variant' category' h' hnames' hne hshared
  exact hne (variant_eq_of_shared h h' hnames hnames' hshared)

/-- A variant of two words, beside the production build. -/
theorem variant_adds_segment_to_card :
    let package := PackageId.named "org.thoughtcrime.securesms.beta.debug"
    let root := Path.ofText "/sdcard/Signal"
    package.variant = .ok (some "beta.debug") ∧
      (∃ path, backupPath package root .full = .ok path ∧
        path.Continues root ["FullBackups", "beta.debug"]) ∧
      backupPath (.named PackageId.production) root .full ≠ backupPath package root .full := by
  intro package root
  have hvariant : package.variant = .ok (some "beta.debug") := rfl
  have hnames : ∀ name ∈ some "beta.debug", IsSegment name := by
    rintro _ ⟨⟩
    exact ⟨by decide, by decide, by decide⟩
  obtain ⟨hbackup, -, hapart⟩ := variant_adds_segment_iff hvariant root .full
  refine ⟨hvariant, hbackup.mpr hnames, hapart hnames _ none .full rfl ?_ ?_⟩
  · simp
  · simp

/-- A variant that is a point adds no segment, so the build shares the directory of the production
build. One that begins with a slash leaves the root. -/
theorem variant_adds_no_segment_to_card :
    let point := PackageId.named "org.thoughtcrime.securesms.."
    let slash := PackageId.named "org.thoughtcrime.securesms./data"
    let root := Path.ofText "/sdcard/Signal"
    point.variant = .ok (some ".") ∧
      backupPath point root .full = backupPath (.named PackageId.production) root .full ∧
      (¬∃ path, backupPath point root .full = .ok path ∧
        path.Continues root ["FullBackups", "."]) ∧
      slash.variant = .ok (some "/data") ∧
      backupPath slash root .full = .ok (.ofText "/data") := by
  intro point slash root
  have hpoint : backupPath point root .full = .ok (.ofText "/sdcard/Signal/FullBackups") := rfl
  have hproduction : backupPath (.named PackageId.production) root .full =
      .ok (.ofText "/sdcard/Signal/FullBackups") := rfl
  refine ⟨rfl, hpoint.trans hproduction.symm, ?_, rfl, rfl⟩
  rintro ⟨path, hpath, -, hparts⟩
  obtain rfl := Except.ok.inj (hpoint.symm.trans hpath)
  have hlists : ["sdcard", "Signal", "FullBackups"] = ["sdcard", "Signal", "FullBackups", "."] :=
    hparts
  simp at hlists

/-! ## Chosen directories -/

section

variable (chosen : Path)

/-- The last two segments of a path are both the name of a directory of backups. -/
def EndsInBackupsTwice (p : Path) : Prop := [backupsName, backupsName] <:+ p.parts

instance (p : Path) : Decidable (EndsInBackupsTwice p) :=
  inferInstanceAs (Decidable ([backupsName, backupsName] <:+ p.parts))

theorem handleRoot_eq_self_iff : handleRoot chosen = chosen ↔ chosen.name ≠ backupsName := by
  rw [handleRoot]
  split
  · rename_i hname
    refine iff_of_false ?_ (not_not_intro hname)
    intro hself
    obtain ⟨front, hparts⟩ := (Path.name_eq_iff (by decide)).mp hname
    have hlength := congrArg (fun p : Path => p.parts.length) hself
    simp [Path.parts_parent, hparts] at hlength
  · rename_i hname
    exact iff_of_true rfl hname

/-- What a chosen directory stands for is called `Backups` only if the directory and its parent
are. -/
theorem name_handleRoot_iff :
    (handleRoot chosen).name = backupsName ↔ EndsInBackupsTwice chosen := by
  have hname := Path.name_eq_iff (p := chosen) (s := backupsName) (by decide)
  rw [handleRoot]
  split
  · rename_i hchosen
    obtain ⟨front, hparts⟩ := hname.mp hchosen
    have hparent : chosen.parent.parts = front := by simp [Path.parts_parent, hparts]
    rw [Path.name_eq_iff (by decide), hparent, EndsInBackupsTwice, hparts]
    refine exists_congr fun rest => ?_
    constructor
    · rintro rfl
      simp
    · intro h
      have hcut : (rest ++ [backupsName]) ++ [backupsName] = front ++ [backupsName] := by
        simpa using h
      exact (List.append_cancel_right hcut).symm
  · rename_i hchosen
    refine iff_of_false hchosen ?_
    rintro ⟨front, hparts⟩
    exact hchosen (hname.mpr ⟨front ++ [backupsName], by simp [← hparts]⟩)

end

/-- For a build without a variant the directory of a category lies in one that is called `Backups`
if and only if the chosen directory and its parent are. Just then, what the chosen directory stands
for stands for another one in turn. -/
theorem category_lies_in_backups_iff {package : PackageId} (h : package.variant = .ok none)
    (chosen : Path) (category : Category) :
    (∃ path, backupPath package (handleRoot chosen) category = .ok path ∧
      path.name = category.directory ∧ path.parent = handleRoot chosen ∧
      (path.parent.name = backupsName ↔ EndsInBackupsTwice chosen)) ∧
    (handleRoot (handleRoot chosen) = handleRoot chosen ↔ ¬EndsInBackupsTwice chosen) := by
  have hparts := parts_withCategory (handleRoot chosen) category
  have hparent : (withCategory (handleRoot chosen) category).parent = handleRoot chosen := by
    ext1
    · rw [Path.anchor_parent, anchor_withCategory]
    · rw [Path.parts_parent, hparts, List.dropLast_concat]
  constructor
  · refine ⟨withCategory (handleRoot chosen) category, backupPath_eq h _ _, ?_, hparent, ?_⟩
    · simp [Path.name, hparts]
    · rw [hparent, name_handleRoot_iff]
  · rw [handleRoot_eq_self_iff, ne_eq, name_handleRoot_iff]

/-- A chosen directory `Backups` on a card, and one that lies in another. -/
theorem category_lies_in_backups_on_card :
    let production := PackageId.named PackageId.production
    let folder := Path.ofText "/sdcard/Documents/Backups"
    let nested := Path.ofText "/sdcard/Backups/Backups"
    (handleRoot (handleRoot folder) = handleRoot folder) ∧
      ∃ path, backupPath production (handleRoot nested) .plaintext = .ok path ∧
        path.parent.name = backupsName := by
  intro production folder nested
  have hproduction : production.variant = .ok none := rfl
  constructor
  · exact (category_lies_in_backups_iff hproduction folder .plaintext).2.mpr (by decide)
  · obtain ⟨⟨path, hpath, -, -, hnested⟩, -⟩ :=
      category_lies_in_backups_iff hproduction nested .plaintext
    exact ⟨path, hpath, hnested.mpr (by decide)⟩

/-- A handle leads to a directory `Backups` in one of that name. The latter is what it stands for,
and the full backups lie in it. -/
theorem category_lies_in_backups_for_nested :
    let c : Config := { Config.default with storagePlace := .path (.ofText "/sdcard") }
    let fs := { FileSystem.empty with
      entries := [(["sdcard"], .directory), (["Backups", "sdcard"], .directory),
        (["Backups", "Backups", "sdcard"], .directory)] }
    let chosen := Path.ofText "/sdcard/Backups/Backups"
    (Platform.ofConfig c).handlePath fs "primary:Backups/Backups" = .ok chosen ∧
      backupPath c.package (handleRoot chosen) .full = .ok (.ofText "/sdcard/Backups/FullBackups") ∧
      handleRoot (handleRoot chosen) ≠ handleRoot chosen := by
  refine ⟨rfl, rfl, ?_⟩
  decide

end Layout

end BackupLocator
