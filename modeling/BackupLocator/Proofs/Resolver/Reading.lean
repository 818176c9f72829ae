import BackupLocator.Proofs.FileSystem.Ancestor
import BackupLocator.Proofs.Layout
import BackupLocator.Proofs.Resolver.Direct
import BackupLocator.Proofs.Resolver.Success

/-!
# Reading older backups

Older backups are read from the directory that they are written to and from that of the older
layout, as far as these are there. Both lie on the standing default root. Writing remembers that
root, so reading goes by it afterwards, whatever the platform says then, and comes upon what has
been written. What may keep it from an answer is a link below the root that leads to a long name.
-/

namespace BackupLocator

open BackupLocator.Action

namespace FileSystem

/-- The directories among some paths, in their order, if all of them can be looked up. -/
def directoriesAmong (fs : FileSystem) : List Path → Except Failure (List Path)
  | [] => .ok []
  | path :: paths => do
    if ← fs.isDirectory path then return path :: (← fs.directoriesAmong paths)
    else fs.directoriesAmong paths

variable {fs : FileSystem} {path : Path} {paths : List Path}

theorem directoriesAmong_cons {found : Bool} (h : fs.isDirectory path = .ok found) :
    fs.directoriesAmong (path :: paths) =
      (fs.directoriesAmong paths).map fun rest => if found then path :: rest else rest := by
  rw [directoriesAmong, h, Failure.ok_bind]
  cases fs.directoriesAmong paths <;> cases found <;> rfl

theorem directoriesAmong_of_error {e : Failure} (h : fs.isDirectory path = .error e) :
    fs.directoriesAmong (path :: paths) = .error e := by
  rw [directoriesAmong, h]
  rfl

theorem isDirectory_of_mem_directoriesAmong {found : List Path}
    (h : fs.directoriesAmong paths = .ok found) :
    ∀ path ∈ found, fs.isDirectory path = .ok true := by
  induction paths generalizing found with
  | nil =>
    obtain rfl := Except.ok.inj h
    simp
  | cons path paths ih =>
    cases hpath : fs.isDirectory path with
    | error e => simp [directoriesAmong_of_error hpath] at h
    | ok there =>
      rw [directoriesAmong_cons hpath] at h
      obtain ⟨rest, hrest, rfl⟩ := Failure.map_eq_ok_iff.mp h
      cases there with
      | true => simpa [hpath] using ih hrest
      | false => exact ih hrest

/-- Behind a directory the answer about another path decides. -/
theorem directoriesAmong_pair_eq_ok_iff {path' : Path} (h : fs.isDirectory path = .ok true)
    {found : List Path} :
    fs.directoriesAmong [path, path'] = .ok found ↔
      ∃ there, fs.isDirectory path' = .ok there ∧ found = path :: if there then [path'] else [] := by
  rw [directoriesAmong_cons h, Failure.map_eq_ok_iff]
  cases hpath : fs.isDirectory path' with
  | error e => simp [directoriesAmong_of_error hpath]
  | ok there =>
    rw [directoriesAmong_cons hpath]
    simp [directoriesAmong, Except.map, eq_comm]

end FileSystem

namespace Resolver

/-- The directories of older backups on a storage root. -/
def readOn (r : Resolver) (fs : FileSystem) (site : Site) : Except Failure (List Path) := do
  let nested ← Layout.backupPath r.package (Layout.legacyRoot site.path) .legacy
  let flattened ← Layout.flattenedRoot r.package site.path
  fs.directoriesAmong [nested, flattened]

theorem does_existing (paths : List Path) (s : Session) :
    (existing paths).Does s (s.files.directoriesAmong paths) s.files s.memo [] := by
  induction paths generalizing s with
  | nil => exact .pure [] s
  | cons path paths ih =>
    refine (Does.isDirectory path s).bind_reads fun found journal => ?_
    have hrest := ih ⟨s.files, s.memo, journal⟩
    cases found with
    | true => exact hrest.bind_reads fun rest journal => .pure _ ⟨s.files, s.memo, journal⟩
    | false => exact hrest

/-- Reading goes by the standing default root, and remembers it. -/
theorem does_legacyReadCandidates (r : Resolver) (s : Session) :
    r.legacyReadCandidates.Does s ((r.selector.standing s.memo).bind (r.readOn s.files)) s.files
      (r.selector.standing s.memo).toOption [] := by
  have hdefault := r.selector.does_defaultRoot s
  cases hsite : r.selector.standing s.memo with
  | error e =>
    rw [hsite] at hdefault
    exact hdefault.bind_error
  | ok site =>
    rw [hsite] at hdefault
    refine hdefault.bind_unchecked fun journal => ?_
    let here (journal : List Event) : Session := ⟨s.files, some site, journal⟩
    refine (Does.ofExcept _ (here journal)).bind_reads fun nested journal => ?_
    refine (Does.ofExcept _ (here journal)).bind_reads fun flattened journal => ?_
    exact does_existing [nested, flattened] (here journal)

end Resolver

namespace Operation

variable {r : Resolver} {s s' : Session} {d : ResolvedDirectory}

/-- Writing remembers the root that it has settled on. -/
theorem memo_of_legacy (h : (legacy.perform r).run s = (.ok (.directory d), s')) :
    s'.memo = some d.site ∧
      Layout.backupPath r.package (Layout.legacyRoot d.site.path) .legacy = .ok d.path := by
  have hdirect : legacy.IsDirect r (some .legacy) := rfl
  obtain ⟨c, hc⟩ := exists_chooses r.selector false s.files s.memo
  obtain ⟨hd, hmemo⟩ := settled_of_success h (hdirect.does hc)
  obtain ⟨site, hroot, hd⟩ := Failure.bind_eq_ok_iff.mp hd
  obtain ⟨path, hpath, rfl⟩ := Failure.map_eq_ok_iff.mp hd
  exact ⟨hmemo.trans (hc.memo_of_root hroot), hpath⟩

/-- Reading that follows goes by the root that was written on, whatever the platform says. -/
theorem does_reading_of_legacy (h : (legacy.perform r).run s = (.ok (.directory d), s'))
    (p : Platform) :
    ∃ older, Layout.flattenedRoot r.package d.site.path = .ok older ∧ older.IsPartOf d.path ∧
      (legacyReadCandidates.perform { r with platform := p }).Does s'
        ((s'.files.directoriesAmong [d.path, older]).map .paths) s'.files s'.memo [] := by
  obtain ⟨hmemo, hpath⟩ := memo_of_legacy h
  obtain ⟨older, holder, hpart⟩ := Layout.exists_flattenedRoot hpath
  let r' : Resolver := { r with platform := p }
  have hreads := (r'.does_legacyReadCandidates s').map Answer.paths
  have hread : r'.readOn s'.files d.site = s'.files.directoriesAmong [d.path, older] := by
    rw [Resolver.readOn, hpath, holder]
    rfl
  rw [hmemo, Selector.standing_some, Except.bind, hread, Except.toOption, ← hmemo] at hreads
  exact ⟨older, holder, hpart, hreads⟩

/-- Where older backups have been written, reading that follows gives the directory that was
written, and behind it that of the older layout on the same root if that is there. What the platform
has come to say does not matter, and nothing changes. Only the path of the older layout may be too
long to look up; then a link has a long name in its target, and reading fails. -/
theorem written_is_read_first (h : (legacy.perform r).run s = (.ok (.directory d), s'))
    (p : Platform) :
    let reading := (legacyReadCandidates.perform { r with platform := p }).run s'
    ∃ older, Layout.flattenedRoot r.package d.site.path = .ok older ∧
      ((∃ paths, reading.1 = .ok (.paths paths)) ↔ ¬s'.files.IsTooLong older) ∧
      (∀ paths, reading.1 = .ok (.paths paths) →
        (∀ path ∈ paths, s'.files.isDirectory path = .ok true) ∧
          ∃ found, s'.files.isDirectory older = .ok found ∧
            paths = d.path :: if found then [older] else []) ∧
      (s'.files.IsTooLong older → ∃ loc target name, s'.files.find? loc = some (.link target) ∧
        name ∈ target.names ∧ FileSystem.nameLimit < name.utf8ByteSize) ∧
      reading.2.files = s'.files ∧ reading.2.memo = s'.memo := by
  intro reading
  have hthere := isDirectory_of_success h
  obtain ⟨older, holder, hpart, hreads⟩ := does_reading_of_legacy h p
  have hanswer {paths : List Path} : reading.1 = .ok (.paths paths) ↔
      s'.files.directoriesAmong [d.path, older] = .ok paths := by
    rw [show reading.1 = _ from hreads.result_eq, Failure.map_eq_ok_iff]
    simp
  have hpair {paths : List Path} : reading.1 = .ok (.paths paths) ↔
      ∃ found, s'.files.isDirectory older = .ok found ∧
        paths = d.path :: if found then [older] else [] :=
    hanswer.trans (FileSystem.directoriesAmong_pair_eq_ok_iff hthere)
  refine ⟨older, holder, ?_, ?_, fun hlong => hlong.exists_long_link hpart hthere,
    hreads.files_eq, hreads.memo_eq⟩
  · rw [← FileSystem.exists_isDirectory_iff]
    constructor
    · rintro ⟨paths, hpaths⟩
      obtain ⟨found, hfound, -⟩ := hpair.mp hpaths
      exact ⟨found, hfound⟩
    · rintro ⟨found, hfound⟩
      exact ⟨_, hpair.mpr ⟨found, hfound, rfl⟩⟩
  · intro paths hpaths
    exact ⟨FileSystem.isDirectory_of_mem_directoriesAmong (hanswer.mp hpaths), hpair.mp hpaths⟩

/-- The platform says that it has no default root any more. What was written is read all the same,
and the directory of the older layout, which is not there, is left out. -/
theorem written_is_read_first_on_card :
    let p : Platform := { Card.platform 29 with defaultRoot := .ok none }
    ∃ s', (legacy.perform Card.resolver).run (.start Card.empty) =
        (.ok (.directory Card.backups), s') ∧
      ((legacyReadCandidates.perform { Card.resolver with platform := p }).run s').1 =
        .ok (.paths [Card.backups.path]) := by
  intro p
  obtain ⟨s', h, hmissing⟩ : ∃ s', (legacy.perform Card.resolver).run (.start Card.empty) =
      (.ok (.directory Card.backups), s') ∧
        s'.files.isDirectory (.ofText "/sdcard/staging") = .ok false := ⟨_, rfl, rfl⟩
  obtain ⟨older, holder, hreads, hpaths, -⟩ := written_is_read_first h p
  obtain rfl := Except.ok.inj holder
  obtain ⟨paths, hreading⟩ := hreads.mpr (FileSystem.not_isTooLong_of_isDirectory hmissing)
  obtain ⟨-, found, hfound, rfl⟩ := hpaths paths hreading
  obtain rfl : false = found := Except.ok.inj (hmissing.symm.trans hfound)
  exact ⟨s', h, hreading⟩

/-- A link to a long name stands on the card where the older layout has its directory. Backups are
written, and cannot be read. -/
theorem written_is_not_read_beside_link :
    let linked : FileSystem := { Card.empty with
      entries := (["staging", "sdcard"], .link ⟨longPath, .bare⟩) :: Card.empty.entries }
    ∃ s', (legacy.perform Card.resolver).run (.start linked) =
        (.ok (.directory Card.backups), s') ∧
      ((legacyReadCandidates.perform Card.resolver).run s').1 =
        .error (.system ⟨.nameTooLong, .ofText "/sdcard/staging"⟩) := by
  intro linked
  let older := Path.ofText "/sdcard/staging"
  obtain ⟨s', h, hlink⟩ : ∃ s', (legacy.perform Card.resolver).run (.start linked) =
      (.ok (.directory Card.backups), s') ∧
        s'.files.advance .throughLink [] older.parts =
          .ok (.link ["sdcard"] ⟨longPath, .bare⟩ []) := ⟨_, rfl, rfl⟩
  have hlong : s'.files.IsTooLong older :=
    FileSystem.isTooLong_of_link rfl hlink rfl rfl nameLimit_lt_longName
  have hfails : s'.files.directoriesAmong [older] = .error (.system ⟨.nameTooLong, older⟩) :=
    FileSystem.directoriesAmong_of_error (FileSystem.isDirectory_eq_error_iff.mpr ⟨hlong, rfl⟩)
  obtain ⟨older', holder, -, hreads⟩ := does_reading_of_legacy h Card.resolver.platform
  obtain rfl : older = older' := Except.ok.inj holder
  refine ⟨s', h, hreads.result_eq.trans ?_⟩
  rw [FileSystem.directoriesAmong_cons (isDirectory_of_success h), hfails]
  rfl

end Operation

end BackupLocator
