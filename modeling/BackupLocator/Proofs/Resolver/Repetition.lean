import BackupLocator.Proofs.Platform.Handle
import BackupLocator.Proofs.Resolver.ByHandle
import BackupLocator.Proofs.Resolver.Frame
import BackupLocator.Proofs.Resolver.Memo
import BackupLocator.Proofs.Resolver.Preference

/-!
# Operations that are repeated

An operation that gives a directory changes what it would find the next time: the directory is there
now, and the default root may be remembered. But only directories have been added, and the root that
is remembered is the one that was settled on. So the operation comes to the same directory again,
and has nothing more to do.
-/

namespace BackupLocator

open BackupLocator.Action

/-- A platform lists the same removable roots in two states of the files, and each of them may be
written to in both or in neither. -/
structure Platform.SameRoots (p : Platform) (fs fs' : FileSystem) : Prop where
  listed : p.externalRoots fs' = p.externalRoots fs
  writable : ∀ roots root path, p.externalRoots fs = .ok roots → some root ∈ roots →
    root.path = some path → fs'.canWrite path = fs.canWrite path

section

variable {sel : Selector} {prefer : Bool} {fs fs' : FileSystem} {memo : Option Site} {c : Choice}
  {site : Site}

theorem Selector.preferred_of_sameRoots (h : sel.platform.SameRoots fs fs') (prefer : Bool) :
    sel.preferred fs' prefer = sel.preferred fs prefer := by
  rw [preferred, preferred, h.listed]

theorem Selector.canWrite_of_sameRoots (h : sel.platform.SameRoots fs fs')
    (hp : sel.preferred fs prefer = .ok (some site)) :
    fs'.canWrite site.path = fs.canWrite site.path := by
  obtain ⟨roots, root, hroots, hmem, hsite⟩ := sel.exists_root_of_preferred hp
  obtain ⟨path, hpath, rfl⟩ := Option.map_eq_some_iff.mp hsite
  exact h.writable roots root path hroots hmem hpath

/-- A default root that has been settled on is remembered, and is settled on once more. -/
theorem Settles.again {standing : Except Failure Site} (h : Settles fs standing c)
    (hroot : c.root = .ok site) (hx : fs.Extension fs') :
    c.memo = some site ∧ Settles fs' (.ok site) c := by
  cases h with
  | missing | unprobed | refused => contradiction
  | writable hw =>
    obtain rfl := Except.ok.inj hroot
    exact ⟨rfl, .writable (hx.canWrite hw)⟩

/-- A choice that has come to a root is made once more, with the memo that it has left behind. -/
theorem Chooses.again (h : Chooses sel prefer fs memo c) (hroot : c.root = .ok site)
    (hx : fs.Extension fs') (hroots : sel.platform.SameRoots fs fs') :
    Chooses sel prefer fs' c.memo c := by
  have hsame := Selector.preferred_of_sameRoots hroots prefer
  cases h with
  | unlisted | unprobed => contradiction
  | removable hp hw => exact .removable (hsame.trans hp) (hx.canWrite hw)
  | @fallback tried c hp htried hsettles =>
    obtain ⟨hmemo, hsettles'⟩ := hsettles.again hroot hx
    have htried' : ∀ site ∈ tried, fs'.canWrite site.path = .ok false := by
      rintro site rfl
      exact (Selector.canWrite_of_sameRoots hroots hp).trans (htried site rfl)
    refine .fallback (hsame.trans hp) htried' ?_
    dsimp only
    rwa [hmemo, Selector.standing_some]

end

namespace Resolver

variable {r : Resolver} {fs fs' : FileSystem} {d : ResolvedDirectory}

/-- The site of a handle is the same where the handle is kept. -/
theorem siteAt_of_keepsHandle {handle : Option String} {site : Site}
    (hkept : ∀ text, handle = some text → r.platform.KeepsHandle text fs fs')
    (h : r.siteAt fs handle = .ok site) : r.siteAt fs' handle = .ok site := by
  unfold siteAt at h ⊢
  split at h
  · contradiction
  · rename_i text hgiven
    obtain ⟨path, hpath, hrest⟩ := Failure.bind_eq_ok_iff.mp h
    have hpath' := hkept text (Option.filter_eq_some_iff.mp hgiven).1 path hpath
    exact Failure.bind_eq_ok_iff.mpr ⟨path, hpath', hrest⟩

/-- A directory for a handle that is kept is the same when directories have been added. -/
theorem directoryAt_extend (hx : fs.Extension fs') {category : Category} {handle : Option String}
    (hkept : ∀ text, handle = some text → r.platform.KeepsHandle text fs fs')
    (h : r.directoryAt fs category handle = .ok d) :
    r.directoryAt fs' category handle = .ok d := by
  obtain ⟨site, hsite, h⟩ := Failure.bind_eq_ok_iff.mp h
  obtain ⟨⟨⟩, hw, h⟩ := Failure.bind_eq_ok_iff.mp h
  have hw' := FileSystem.writable_eq_ok_iff.mpr
    (hx.canWrite (FileSystem.writable_eq_ok_iff.mp hw))
  exact Failure.bind_eq_ok_iff.mpr ⟨site, siteAt_of_keepsHandle hkept hsite,
    Failure.bind_eq_ok_iff.mpr ⟨(), hw', h⟩⟩

theorem madeIn_of_isDirectory (h : fs.isDirectory d.path = .ok true) : madeIn fs d = .ok d :=
  madeIn_eq_ok_iff.mpr ⟨rfl, congrArg Prod.fst (FileSystem.makeDirectory_of_isDirectory h)⟩

end Resolver

namespace Operation

variable {r : Resolver} {op : Operation} {s s' : Session} {d : ResolvedDirectory}

/-! ## One more time -/

/-- An operation that settles on a directory that is there gives it and leaves the files alone. -/
theorem gives_of_settled {outcome : Except Failure ResolvedDirectory} {memo : Option Site}
    {paths : List Path} (hthere : s.files.isDirectory d.path = .ok true)
    (houtcome : outcome = .ok d)
    (hdoes : (op.perform r).Does s ((outcome.bind (Resolver.madeIn s.files)).map .directory)
      (filesAfter s.files outcome) memo paths) :
    ∃ journal, (op.perform r).run s = (.ok (.directory d), ⟨s.files, memo, journal⟩) := by
  subst houtcome
  obtain ⟨events, hrun, -⟩ := hdoes
  have hmake : s.files.makeDirectory d.path true true = (.ok (), s.files) :=
    FileSystem.makeDirectory_of_isDirectory hthere
  refine ⟨events ++ s.journal, ?_⟩
  simpa only [Except.bind, Except.map, filesAfter, hmake, Resolver.madeIn_of_isDirectory hthere]
    using hrun

/-- With the files and the memo that it has left behind, an operation gives its directory again, and
leaves them behind once more. -/
theorem gives_again (h : (op.perform r).run s = (.ok (.directory d), s'))
    (hhandle : op.IsScoped r → ∀ handle, op.handle? = some handle →
      r.platform.KeepsHandle handle s.files s'.files)
    (hroots : r.platform.SameRoots s.files s'.files) {t : Session} (hfiles : t.files = s'.files)
    (hmemo : t.memo = s'.memo) :
    ∃ journal, (op.perform r).run t = (.ok (.directory d), ⟨s'.files, s'.memo, journal⟩) := by
  obtain ⟨-, hx, -⟩ := files_after_operation h
  have hbranch := (targets_of_success h).1.found.branch
  have hthere : t.files.isDirectory d.path = .ok true := hfiles ▸ isDirectory_of_success h
  match hmodel : d.model with
  | .scoped =>
    have hscoped : op.IsScoped r := ⟨d.category, by rw [hbranch, ResolvedDirectory.branch, hmodel]⟩
    obtain ⟨category, paths, hcategory, hdoes⟩ := hscoped.does s
    obtain ⟨category', paths', hcategory', hdoes'⟩ := hscoped.does t
    obtain rfl : category = category' := by simpa [hcategory] using hcategory'
    obtain ⟨hd, hkept⟩ := settled_of_success h hdoes
    have hd' := Resolver.directoryAt_extend hx (hhandle hscoped) hd
    rw [← hfiles] at hd'
    obtain ⟨journal, hrun⟩ := gives_of_settled hthere hd' hdoes'
    exact ⟨journal, by rw [hrun, hfiles, hmemo]⟩
  | .legacy =>
    have hdirect : op.IsDirect r d.category := by
      rw [IsDirect, hbranch, ResolvedDirectory.branch, hmodel]
    obtain ⟨c, hc⟩ := exists_chooses r.selector op.prefers s.files s.memo
    obtain ⟨hd, hkept⟩ := settled_of_success h (hdirect.does hc)
    obtain ⟨site, hroot, -⟩ := Failure.bind_eq_ok_iff.mp hd
    have hc' := hc.again hroot hx hroots
    rw [← hfiles, ← hkept, ← hmemo] at hc'
    obtain ⟨journal, hrun⟩ := gives_of_settled hthere hd (hdirect.does hc')
    exact ⟨journal, by rw [hrun, hfiles, hkept]⟩

/-! ## Any number of times -/

/-- However often an operation that has given a directory is repeated, it gives that directory, and
leaves the files and the memo as it has left them the first time. By a handle that is so if the
handle leads on where it has led, as it does on a platform of configured volumes. -/
theorem success_repeats (h : (op.perform r).run s = (.ok (.directory d), s'))
    (hhandle : op.IsScoped r → ∀ handle, op.handle? = some handle →
      r.platform.KeepsHandle handle s.files s'.files)
    (hroots : r.platform.SameRoots s.files s'.files) (n : Nat) :
    let again : Turn := ⟨id, r.platform, op⟩
    let later := s'.after r.package r.sorted (List.replicate n again)
    (again.take r.package r.sorted later).1 = .ok (.directory d) ∧ later.files = s'.files ∧
      later.memo = s'.memo := by
  intro again later
  have htake {t : Session} (hfiles : t.files = s'.files) (hmemo : t.memo = s'.memo) :
      ∃ journal, again.take r.package r.sorted t =
        (.ok (.directory d), ⟨s'.files, s'.memo, journal⟩) :=
    gives_again h hhandle hroots hfiles hmemo
  have hkept : ∀ turn ∈ List.replicate n again, ∀ t : Session,
      t.files = s'.files ∧ t.memo = s'.memo →
        (turn.take r.package r.sorted t).2.files = s'.files ∧
          (turn.take r.package r.sorted t).2.memo = s'.memo := by
    rintro turn hmem t ⟨hfiles, hmemo⟩
    obtain rfl := List.eq_of_mem_replicate hmem
    obtain ⟨journal, hrun⟩ := htake hfiles hmemo
    rw [hrun]
    exact ⟨rfl, rfl⟩
  obtain ⟨hfiles, hmemo⟩ := Session.after_keeps r.package r.sorted
    (P := fun t => t.files = s'.files ∧ t.memo = s'.memo) hkept ⟨rfl, rfl⟩
  obtain ⟨journal, hrun⟩ := htake hfiles hmemo
  exact ⟨congrArg Prod.fst hrun, hfiles, hmemo⟩

/-- Backups on a stick that is configured and chosen by its handle, the first time and the third
time. -/
theorem success_repeats_on_stick :
    let c : Config := { Config.default with
      volumes := .arr [.obj [("uuid", .str "AB12-34CD"), ("path", .str "/stick")]] }
    let r : Resolver := ⟨.ofConfig c, .unset, false⟩
    let again : Turn := ⟨id, r.platform, full (some "AB12-34CD:") false⟩
    ∃ d s', (again.operation.perform r).run (.start Card.withStick) = (.ok (.directory d), s') ∧
      d.path = .ofText "/stick/FullBackups" ∧
      (again.take r.package r.sorted
        (s'.after r.package r.sorted (List.replicate 2 again))).1 = .ok (.directory d) := by
  intro c r again
  let listed : List (Option StorageRoot) := [some ⟨some Card.stick.path, .null, .str ""⟩]
  have hbefore : r.platform.externalRoots Card.withStick = .ok listed := rfl
  obtain ⟨d, s', h, hpath, hafter, hwritable⟩ : ∃ d s',
      (again.operation.perform r).run (.start Card.withStick) = (.ok (.directory d), s') ∧
        d.path = .ofText "/stick/FullBackups" ∧ r.platform.externalRoots s'.files = .ok listed ∧
        s'.files.canWrite Card.stick.path = .ok true := ⟨_, _, rfl, rfl, rfl, rfl⟩
  have hroots : r.platform.SameRoots Card.withStick s'.files := by
    refine ⟨hafter.trans hbefore.symm, ?_⟩
    intro roots root path hroots hmem hroot
    obtain rfl := Except.ok.inj (hbefore.symm.trans hroots)
    obtain rfl := Option.some.inj (List.mem_singleton.mp hmem)
    obtain rfl := Option.some.inj hroot
    exact hwritable
  -- What the first operation has made is added to what was there, so the stick is still found.
  obtain ⟨-, hx, -⟩ := files_after_operation h
  have hhandle (text : String) : r.platform.KeepsHandle text Card.withStick s'.files :=
    Platform.ofConfig_keepsHandle c text hx
  exact ⟨d, s', h, hpath, (success_repeats h (fun _ text _ => hhandle text) hroots 2).1⟩

end Operation

end BackupLocator
