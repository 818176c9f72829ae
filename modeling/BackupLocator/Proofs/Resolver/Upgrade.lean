import BackupLocator.Proofs.Layout
import BackupLocator.Proofs.Resolver.Repetition

/-!
# Backups after an upgrade

From version 30 on storage is reached by handles. A user who then chooses the folder of older
backups, `Signal/Backups` on the default storage, has chosen the application root of before: the
folder stands for its parent. So full and plaintext backups lie where they lay, and what has been
made there is found.
-/

namespace BackupLocator

/-- The document id of the folder of older backups on the default storage. -/
def Handle.olderBackups : String := "primary:Signal/Backups"

theorem Handle.ne_empty_of_olderBackups {handle : String}
    (h : documentId handle = .ok olderBackups) : handle ≠ "" := by
  rintro rfl
  have hempty : documentId "" = .ok "" := rfl
  have hsame : "" = olderBackups := Except.ok.inj (hempty.symm.trans h)
  exact absurd hsame (by decide)

namespace Layout

variable (base : Path)

/-- The folder of older backups on a storage root. -/
def olderBackups : Path := (legacyRoot base).child backupsName

theorem parts_olderBackups :
    (olderBackups base).parts = base.parts ++ [applicationName, backupsName] := by
  have hparts : (olderBackups base).parts = (legacyRoot base).parts ++ [backupsName] := rfl
  rw [hparts, parts_legacyRoot, List.append_assoc]
  rfl

/-- The relative path of the document id leads to that folder. -/
theorem join_olderBackups :
    base.join (.ofText (Handle.relativePath Handle.olderBackups)) = olderBackups base := by
  apply Path.ext
  · rfl
  · rw [parts_olderBackups]
    rfl

/-- The folder stands for the application root that it lies in. -/
theorem handleRoot_olderBackups : handleRoot (olderBackups base) = legacyRoot base := by
  have hname : (olderBackups base).name = backupsName := by
    simp [Path.name, parts_olderBackups]
  rw [handleRoot, if_pos hname]
  apply Path.ext
  · rfl
  · rw [Path.parts_parent, parts_olderBackups, parts_legacyRoot]
    simp [List.dropLast_append_of_ne_nil]

end Layout

/-! ## The folder of older backups as a handle -/

namespace Platform.Local

variable {c : Config} {base : Path} {handle : String}

/-- Where the volumes have fields, it can be told whether one has a description. -/
theorem exists_description {volumes : List (List (String × Json))}
    (hvolumes : c.volumeEntries = .ok (volumes.map .obj)) (tag : String) :
    ∃ v, description c tag = .ok v := by
  simp only [description, hvolumes, findVolume_map_obj, bind, Except.bind]
  split <;> exact ⟨_, rfl⟩

theorem handleTarget_olderBackups (hid : Handle.documentId handle = .ok Handle.olderBackups)
    (hbase : c.storagePlace.path? = .ok (some base)) :
    handleTarget c handle = .ok (Layout.olderBackups base) := by
  have hne := Handle.ne_empty_of_olderBackups hid
  have hplace : c.storagePlace ≠ .nowhere := by
    intro hnowhere
    simp [hnowhere, Place.path?] at hbase
  have hmount : mountOf c (Handle.volumeTag Handle.olderBackups) = .ok c.storagePlace := rfl
  have hinside : ¬((Path.ofText (Handle.relativePath Handle.olderBackups)).isAbsolute = true ∨
      ".." ∈ (Path.ofText (Handle.relativePath Handle.olderBackups)).parts) := by decide
  rw [handleTarget, if_neg hne, hid]
  simp only [bind, Except.bind, hmount, if_neg hplace, if_neg hinside, hbase]
  rw [Layout.join_olderBackups]
  rfl

end Platform.Local

namespace Operation

variable {r : Resolver} {c : Config} {op : Operation} {s s' t : Session} {d : ResolvedDirectory}
  {category : Category} {base path : Path} {root : StorageRoot} {handle : String}
  {volumes : List (List (String × Json))}

/-- Where nothing is remembered or preferred, a directory that is found by plain paths lies on the
default root of the platform. -/
theorem backupPath_of_direct (hop : op.IsDirect r (some category)) (hprefers : op.prefers = false)
    (hmemo : s.memo = none) (hroot : r.platform.defaultRoot = .ok (some root))
    (hbase : root.path = some base) (h : (op.perform r).run s = (.ok (.directory d), s')) :
    Layout.backupPath r.package (Layout.legacyRoot base) category = .ok d.path := by
  obtain ⟨c, hc⟩ := exists_chooses r.selector op.prefers s.files s.memo
  obtain ⟨hd, -⟩ := settled_of_success h (hop.does hc)
  obtain ⟨site, hsite, hon⟩ := Failure.bind_eq_ok_iff.mp hd
  obtain ⟨path, hpath, rfl⟩ := Failure.map_eq_ok_iff.mp hon
  rw [hprefers, hmemo] at hc
  obtain ⟨hstanding, -⟩ := hc.standing_of_root hsite
  have hsite_path : site.path = base := by
    have hdefault : defaultSite (.ok (some root)) = .ok site := hroot ▸ hstanding
    simp only [defaultSite, Option.bind_some, StorageRoot.site?, hbase, Option.map_some] at hdefault
    rw [← Except.ok.inj hdefault]
  rw [← hsite_path]
  exact hpath

/-- A handle for the folder of older backups gives the site at that folder. -/
theorem siteAt_olderBackups (hvolumes : c.volumeEntries = .ok (volumes.map .obj))
    (hr : r.platform = .ofConfig c) (hid : Handle.documentId handle = .ok Handle.olderBackups)
    (hbase : c.storagePlace.path? = .ok (some base))
    (hfolder : t.files.isDirectory (Layout.olderBackups base) = .ok true) :
    ∃ site, r.siteAt t.files (some handle) = .ok site ∧ site.path = Layout.olderBackups base := by
  have hfound : r.platform.handlePath t.files handle = .ok (Layout.olderBackups base) := by
    rw [hr]
    exact Platform.Local.handlePath_eq_ok_iff.mpr
      ⟨Platform.Local.handleTarget_olderBackups hid hbase, hfolder⟩
  have hvolume : Handle.volume handle = .ok (Handle.volumeTag Handle.olderBackups) := by
    rw [Handle.volume, hid]
    rfl
  obtain ⟨description, hdescription⟩ := Platform.Local.exists_description hvolumes
    (Handle.volumeTag Handle.olderBackups)
  have hasked : r.platform.description (Handle.volumeTag Handle.olderBackups) =
      .ok description := by
    rw [hr]
    exact hdescription
  have hgiven : (some handle).filter (· ≠ "") = some handle := by
    simp [Handle.ne_empty_of_olderBackups hid]
  refine ⟨⟨Layout.olderBackups base, .str handle,
    if description.truthy then description else .str ""⟩, ?_, rfl⟩
  simp only [Resolver.siteAt, hgiven, hfound, hvolume, hasked, bind, Except.bind]
  rfl

/-- A handle for the folder of older backups gives the directory of a category below the application
root, which it leaves as it is where it is there. -/
theorem gives_below_legacyRoot (hvolumes : c.volumeEntries = .ok (volumes.map .obj))
    (hr : r.platform = .ofConfig c)
    (hop : op.branch? r = some (some category, .scoped)) (hhandle : op.handle? = some handle)
    (hid : Handle.documentId handle = .ok Handle.olderBackups)
    (hbase : c.storagePlace.path? = .ok (some base))
    (hfolder : t.files.isDirectory (Layout.olderBackups base) = .ok true)
    (hwritable : t.files.canWrite (Layout.legacyRoot base) = .ok true)
    (hpath : Layout.backupPath r.package (Layout.legacyRoot base) category = .ok path)
    (hthere : t.files.isDirectory path = .ok true) :
    ∃ d journal, (op.perform r).run t = (.ok (.directory d), ⟨t.files, t.memo, journal⟩) ∧
      d.path = path := by
  obtain ⟨site, hsite, hfolderPath⟩ := siteAt_olderBackups hvolumes hr hid hbase hfolder
  have hd : r.directoryAt t.files category op.handle? =
      .ok ⟨site, path, some category, .scoped⟩ := by
    have hchecked := FileSystem.writable_eq_ok_iff.mpr hwritable
    have hroot : Layout.handleRoot site.path = Layout.legacyRoot base := by
      rw [hfolderPath, Layout.handleRoot_olderBackups]
    rw [hhandle]
    simp only [Resolver.directoryAt, hsite, hroot, hchecked, hpath, bind, Except.bind]
    rfl
  have hscoped : op.IsScoped r := ⟨some category, hop⟩
  obtain ⟨category', paths, hcategory, hdoes⟩ := hscoped.does t
  obtain rfl : category = category' := by simpa [hop] using hcategory
  obtain ⟨journal, hrun⟩ := gives_of_settled hthere hd hdoes
  exact ⟨_, journal, hrun, rfl⟩

/-- Where the folder of older backups is there and the application root may be written to, a
directory that has been given below version 30 without a preference is given again from version 30
on, for a handle to that folder, and nothing is made. -/
theorem upgrade_keeps_directory (hvolumes : c.volumeEntries = .ok (volumes.map .obj))
    (hbase : c.storagePlace.path? = .ok (some base)) {package : PackageId} {sorted sorted' : Bool}
    {n m : Int} (hn : n < Version.firstScoped) (hm : Version.firstScoped ≤ m)
    {ask : Option String → Bool → Operation} (hask : ask = full ∨ ask = plaintext)
    {handle? : Option String} (hmemo : s.memo = none)
    (hfolder : s.files.isDirectory (Layout.olderBackups base) = .ok true)
    (hwritable : s.files.canWrite (Layout.legacyRoot base) = .ok true)
    (h : ((ask handle? false).perform
      ⟨.ofConfig { c with platformVersion := .int n }, package, sorted⟩).run s =
        (.ok (.directory d), s'))
    (hid : Handle.documentId handle = .ok Handle.olderBackups) (prefer : Bool)
    (hfiles : t.files = s'.files) :
    ∃ d' t', ((ask (some handle) prefer).perform
        ⟨.ofConfig { c with platformVersion := .int m }, package, sorted'⟩).run t =
          (.ok (.directory d'), t') ∧
      d'.path = d.path ∧ t'.files = s'.files := by
  let older : Resolver := ⟨.ofConfig { c with platformVersion := .int n }, package, sorted⟩
  let newer : Resolver := ⟨.ofConfig { c with platformVersion := .int m }, package, sorted'⟩
  have hnewer : Config.volumeEntries { c with platformVersion := .int m } =
      .ok (volumes.map .obj) := hvolumes
  have hroot : older.platform.defaultRoot =
      .ok (some ⟨some base, .null, .str Platform.Local.primaryDescription⟩) := by
    change Platform.Local.defaultRoot _ = _
    simp only [Platform.Local.defaultRoot, hbase, Except.map, Option.map_some]
  -- What was there before the directory was made is there after it.
  obtain ⟨-, hx, -⟩ := files_after_operation h
  have hthere : t.files.isDirectory d.path = .ok true := hfiles ▸ isDirectory_of_success h
  have hfolder' : t.files.isDirectory (Layout.olderBackups base) = .ok true :=
    hfiles ▸ hx.isDirectory hfolder
  have hwritable' : t.files.canWrite (Layout.legacyRoot base) = .ok true :=
    hfiles ▸ hx.canWrite hwritable
  have hbefore := Operation.branch?_of_ofVersion (r := older)
    (StorageModel.ofVersion_of_lt_firstScoped hn) handle? false
  have hafter := Operation.branch?_of_ofVersion (r := newer)
    (StorageModel.ofVersion_of_firstScoped_le hm) (some handle) prefer
  obtain ⟨category, hdirect, hprefers, hbranch, hhandle⟩ : ∃ category,
      (ask handle? false).IsDirect older (some category) ∧ (ask handle? false).prefers = false ∧
        (ask (some handle) prefer).branch? newer = some (some category, .scoped) ∧
        (ask (some handle) prefer).handle? = some handle := by
    rcases hask with rfl | rfl
    · exact ⟨.full, hbefore.1, rfl, hafter.1, rfl⟩
    · exact ⟨.plaintext, hbefore.2, rfl, hafter.2, rfl⟩
  have hpath := backupPath_of_direct hdirect hprefers hmemo hroot rfl h
  obtain ⟨d', journal, hrun, hd'⟩ := gives_below_legacyRoot hnewer rfl hbranch hhandle hid hbase
    hfolder' hwritable' hpath hthere
  exact ⟨d', _, hrun, hd', hfiles⟩

/-- Full backups of a variant on a card, made at version 29 and found at version 34 by an address
for the folder of older backups. -/
theorem upgrade_keeps_directory_on_card :
    let c : Config := { Config.default with storagePlace := .path Card.path }
    let resolver (n : Int) : Resolver :=
      ⟨.ofConfig { c with platformVersion := .int n }, Card.resolver.package, false⟩
    let address := "content://com.android.externalstorage.documents/tree/primary%3ASignal%2FBackups"
    ∃ d s' d' t', ((full none false).perform (resolver 29)).run (.start Card.guarded) =
        (.ok (.directory d), s') ∧ d.path = .ofText "/sdcard/Signal/FullBackups/staging" ∧
      ((full (some address) false).perform (resolver 34)).run s' = (.ok (.directory d'), t') ∧
      d'.path = d.path ∧ t'.files = s'.files := by
  intro c resolver address
  obtain ⟨d, s', h, hpath⟩ : ∃ d s',
      ((full none false).perform (resolver 29)).run (.start Card.guarded) =
        (.ok (.directory d), s') ∧ d.path = .ofText "/sdcard/Signal/FullBackups/staging" :=
    ⟨_, _, rfl, rfl⟩
  have hvolumes : c.volumeEntries = .ok (List.map .obj []) := rfl
  have hid : Handle.documentId address = .ok Handle.olderBackups := by
    unfold address
    rfl
  obtain ⟨d', t', hrun, hd', hfiles⟩ : ∃ d' t',
      ((full (some address) false).perform (resolver 34)).run s' = (.ok (.directory d'), t') ∧
        d'.path = d.path ∧ t'.files = s'.files :=
    upgrade_keeps_directory hvolumes rfl (by decide) (by decide) (.inl rfl) rfl rfl rfl h hid false
      rfl
  exact ⟨d, s', d', t', h, hpath, hrun, hd', hfiles⟩

end Operation

end BackupLocator
