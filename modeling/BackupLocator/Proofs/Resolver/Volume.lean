import BackupLocator.Proofs.Layout
import BackupLocator.Proofs.Resolver.Scoped
import BackupLocator.Proofs.Resolver.Success

/-!
# Backups stay on their volume

A handle for a configured volume leads to the place of the volume or below it. The directory of
backups is then a child of the one that was chosen, or of the parent of that where it is called
`Backups`. So it lies below the place of the volume, unless that place itself has been chosen and is
called so.
-/

namespace BackupLocator

/-! ## Paths below a place -/

namespace Path

/-- A path lies properly below a place, and no segment of the way there goes up. -/
def LiesBelow (p base : Path) : Prop :=
  p.anchor = base.anchor ∧ ∃ rest, rest ≠ [] ∧ p.parts = base.parts ++ rest ∧ ".." ∉ rest

theorem name_join_of_nil {p q : Path} (hrelative : q.isAbsolute = false) (hq : q.parts = []) :
    (p.join q).name = p.name := by
  rw [name, parts_join_of_relative hrelative, hq, List.append_nil, name]

end Path

namespace Layout

variable {root base relative : Path} {category : Category}

/-- The directory of a category lies below every place from which its root is reached without going
up. -/
theorem withCategory_liesBelow {rest : List String} (hanchor : root.anchor = base.anchor)
    (hparts : root.parts = base.parts ++ rest) (hup : ".." ∉ rest) :
    (withCategory root category).LiesBelow base := by
  have hdirectory : category.directory ≠ ".." := by
    cases category <;> decide
  refine ⟨?_, rest ++ [category.directory], by simp, ?_, by simp [hup, hdirectory.symm]⟩
  · rw [anchor_withCategory, hanchor]
  · rw [parts_withCategory, hparts, List.append_assoc]

/-- It does not lie below a place that has more segments than its root. -/
theorem withCategory_not_liesBelow (h : root.parts.length < base.parts.length) :
    ¬(withCategory root category).LiesBelow base := by
  rintro ⟨-, rest, hrest, hparts, -⟩
  have hlength := congrArg List.length hparts
  have hpos := List.length_pos_iff.mpr hrest
  rw [parts_withCategory, List.length_append, List.length_append, List.length_singleton] at hlength
  omega

/-- For a directory that was chosen at a place, or below it, the directory of a category lies below
that place, unless the place itself was chosen and stands for its parent. -/
theorem handleRoot_liesBelow_iff (hrelative : relative.isAbsolute = false)
    (hup : ".." ∉ relative.parts) :
    (withCategory (handleRoot (base.join relative)) category).LiesBelow base ↔
      ¬(base.name = backupsName ∧ relative.parts = []) := by
  have hparts := Path.parts_join_of_relative (p := base) hrelative
  have hanchor := Path.anchor_join_of_relative (p := base) hrelative
  by_cases hname : (base.join relative).name = backupsName
  · rw [handleRoot, if_pos hname]
    by_cases hnil : relative.parts = []
    · -- The place itself has been chosen. Its parent has fewer segments than the place.
      have hbase : base.name = backupsName :=
        (Path.name_join_of_nil hrelative hnil).symm.trans hname
      refine iff_of_false (withCategory_not_liesBelow ?_) fun h => h ⟨hbase, hnil⟩
      have hsome : base.parts ≠ [] := by
        intro hempty
        simp [Path.name, hempty, backupsName] at hbase
      rw [Path.parts_parent, hparts, hnil, List.append_nil, List.length_dropLast]
      exact Nat.sub_one_lt (mt List.length_eq_zero_iff.mp hsome)
    · -- A directory `Backups` on the volume: the parent is on the volume too, or the place itself.
      have hparent : (base.join relative).parent.parts = base.parts ++ relative.parts.dropLast := by
        rw [Path.parts_parent, hparts, List.dropLast_append_of_ne_nil hnil]
      have hup' : ".." ∉ relative.parts.dropLast := fun h => hup (List.dropLast_subset _ h)
      refine iff_of_true (withCategory_liesBelow ?_ hparent hup') fun h => hnil h.2
      rw [Path.anchor_parent, hanchor]
  · rw [handleRoot, if_neg hname]
    refine iff_of_true (withCategory_liesBelow hanchor hparts hup) ?_
    rintro ⟨hbase, hnil⟩
    exact hname ((Path.name_join_of_nil hrelative hnil).trans hbase)

end Layout

/-! ## Operations by a handle for a configured volume -/

namespace Operation

variable {c : Config} {package : PackageId} {sorted : Bool} {op : Operation} {s s' : Session}
  {d : ResolvedDirectory} {handle id : String} {base : Path}

/-- A backup of a build without a variant lies below the place of the volume that its handle is for,
unless the handle is for that place itself and the place is called `Backups`. -/
theorem given_directory_liesBelow_iff (hpackage : package.variant = .ok none)
    (hop : op.IsScoped ⟨.ofConfig c, package, sorted⟩) (hhandle : op.handle? = some handle)
    (hid : Handle.documentId handle = .ok id)
    (hbase : Platform.Local.baseOf c id = .ok (some base))
    (h : (op.perform ⟨.ofConfig c, package, sorted⟩).run s = (.ok (.directory d), s')) :
    d.path.LiesBelow base ↔ ¬(base.name = Layout.backupsName ∧
      (Path.ofText (Handle.relativePath id)).parts = []) := by
  have hfound := (targets_of_success h).1.found
  obtain ⟨-, category, hbranch, -, -⟩ := hop.plan
  have hd : d.branch = (some category, .scoped) :=
    Option.some.inj (hfound.branch.symm.trans hbranch)
  have hmodel : d.model = .scoped := congrArg Prod.snd hd
  obtain ⟨text, htext, -, hpath⟩ := hfound.handle hmodel
  obtain rfl : handle = text := Option.some.inj (hhandle.symm.trans htext)
  obtain ⟨base', hbase', hrelative, hup, hjoin, -⟩ :=
    Platform.Local.handlePath_eq_ok hpath hid
  obtain rfl : base = base' := Option.some.inj (Except.ok.inj (hbase.symm.trans hbase'))
  have hlaid : d.path = Layout.withCategory (Layout.handleRoot d.site.path) category := by
    obtain ⟨names, hnames, hnamed⟩ := hfound.laidOut
    rw [hd, Layout.namesBelow, hpackage] at hnames
    obtain rfl := Except.ok.inj hnames
    rw [hnamed, ResolvedDirectory.medium, hmodel]
    rfl
  rw [hlaid, hjoin]
  exact Layout.handleRoot_liesBelow_iff hrelative hup

/-- The card itself is chosen, and full backups lie below it. -/
theorem given_directory_liesBelow_on_card :
    let c : Config := { Config.default with storagePlace := .path Card.path }
    let op := full (some "primary:") false
    ∃ d s', (op.perform ⟨.ofConfig c, c.package, false⟩).run (.start Card.empty) =
      (.ok (.directory d), s') ∧ d.path.LiesBelow Card.path := by
  intro c op
  obtain ⟨d, s', h⟩ : ∃ d s', (op.perform ⟨.ofConfig c, c.package, false⟩).run
      (.start Card.empty) = (.ok (.directory d), s') := ⟨_, _, rfl⟩
  have hop : op.IsScoped ⟨.ofConfig c, c.package, false⟩ :=
    (isScoped_of_firstScoped_le (Int.le_refl 30) rfl (some "primary:") false).1
  have hplace : ¬(Card.path.name = Layout.backupsName ∧
      (Path.ofText (Handle.relativePath "primary:")).parts = []) := by
    decide
  exact ⟨d, s', h, (given_directory_liesBelow_iff rfl hop rfl rfl rfl h).mpr hplace⟩

/-- A volume that lies at a place called `Backups` is chosen itself. Full backups lie beside it. -/
theorem given_directory_beside_volume :
    let volume := Path.ofText "/media/Backups"
    let c : Config := { Config.default with storagePlace := .path volume }
    let fs := { FileSystem.empty with
      entries := [(["media"], .directory), (["Backups", "media"], .directory)] }
    ∃ d s', ((full (some "primary:") false).perform ⟨.ofConfig c, c.package, false⟩).run
        (.start fs) = (.ok (.directory d), s') ∧
      d.path = .ofText "/media/FullBackups" ∧ ¬d.path.LiesBelow volume := by
  refine ⟨_, _, rfl, rfl, ?_⟩
  rintro ⟨-, rest, -, hparts, -⟩
  have hnames : ["media", "FullBackups"] = ["media", "Backups"] ++ rest := hparts
  simp at hnames

end Operation

end BackupLocator
