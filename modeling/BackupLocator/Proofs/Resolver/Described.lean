import BackupLocator.Proofs.Platform.Handle
import BackupLocator.Proofs.Resolver.ByHandle
import BackupLocator.Proofs.Resolver.Fault
import BackupLocator.Proofs.Resolver.Success

/-!
# What a directory says of its storage

A directory is handed on with the handle and the description of its storage root. Where the values
of a configuration are of their kinds, the description is always a text, and the handle is the one
that was given or null. So what is said of a directory can be printed.
-/

namespace BackupLocator

open BackupLocator.Action

/-- A site is described by a text, and its handle is a text if there is one. -/
structure Site.IsDescribed (site : Site) : Prop where
  handle : site.handle = .null ∨ site.handle.IsText
  description : site.description.IsText

/-! ## Roots and volumes -/

namespace Platform.Local

variable {c : Config} {fs : FileSystem} {site : Site}

theorem isDescribed_of_volumeRoot {fields : List (String × Json)} {root : StorageRoot}
    (h : IsVolume fields) (hroot : volumeRoot fs fields = .ok (some root))
    (hsite : root.site? = some site) : site.IsDescribed := by
  have htext : ((Json.lookup "description" fields).getD (.str "")).IsText := by
    cases hdescription : Json.lookup "description" fields with
    | none => exact ⟨"", rfl⟩
    | some v => exact h.description v hdescription
  rw [volumeRoot_eq h] at hroot
  cases hmount : mount? fields with
  | none => simp [hmount] at hroot
  | some path =>
    rw [hmount] at hroot
    obtain ⟨found, -, hfound⟩ := Failure.map_eq_ok_iff.mp hroot
    cases found with
    | false => contradiction
    | true =>
      obtain rfl := Option.some.inj hfound
      obtain rfl := Option.some.inj hsite
      exact ⟨.inl rfl, htext⟩

theorem isDescribed_of_defaultRoot (h : defaultSite (defaultRoot c) = .ok site) :
    site.IsDescribed := by
  unfold defaultRoot at h
  cases hplace : c.storagePlace.path? with
  | error e =>
    rw [hplace] at h
    contradiction
  | ok path? =>
    rw [hplace] at h
    cases path? with
    | none => contradiction
    | some path =>
      obtain rfl := Except.ok.inj h
      exact ⟨.inl rfl, _, rfl⟩

/-- The description of a volume is a text, if there is one. -/
theorem description_isText (hc : c.IsWellTyped) {tag : String} {v : Json}
    (h : description c tag = .ok v) : v = .null ∨ v.IsText := by
  obtain ⟨volumes, hvolumes, htyped⟩ := hc.volumeEntries_eq
  rcases description_eq hvolumes htyped tag with hnone | ⟨text, htext⟩
  · exact .inl (Except.ok.inj (h.symm.trans hnone))
  · exact .inr ⟨text, Except.ok.inj (h.symm.trans htext)⟩

end Platform.Local

/-! ## Choices and handles -/

section

variable {c : Config} {sorted : Bool} {fs : FileSystem} {memo : Option Site} {site : Site}

/-- A root that is chosen is described, if what is remembered is. -/
theorem Chooses.isDescribed_of_root (hc : c.IsWellTyped) {prefer : Bool} {choice : Choice}
    (h : Chooses (c.resolver sorted).selector prefer fs memo choice)
    (hmemo : ∀ site, memo = some site → site.IsDescribed) (hroot : choice.root = .ok site) :
    site.IsDescribed := by
  obtain ⟨volumes, hvolumes, htyped⟩ := hc.volumeEntries_eq
  cases h with
  | unlisted | unprobed => contradiction
  | removable hp _ =>
    obtain rfl := Except.ok.inj hroot
    obtain ⟨roots, root, hroots, hmem, hsite⟩ := Selector.exists_root_of_preferred _ hp
    rw [Selector.externalRoots_eq hvolumes] at hroots
    obtain ⟨fields, hfields, -, hvolume⟩ :=
      (Platform.Local.some_mem_removableRoots_iff hroots).mp hmem
    obtain ⟨fields, hfields, ⟨⟩⟩ := List.mem_map.mp hfields
    exact Platform.Local.isDescribed_of_volumeRoot (htyped fields hfields) hvolume hsite
  | fallback _ _ hsettles =>
    obtain ⟨hstanding, -⟩ := hsettles.standing_of_root hroot
    cases memo with
    | none => exact Platform.Local.isDescribed_of_defaultRoot hstanding
    | some remembered =>
      obtain rfl := Except.ok.inj hstanding
      exact hmemo _ rfl

/-- The site of a handle is described, by an empty text where its volume is not. -/
theorem Resolver.isDescribed_of_siteAt (hc : c.IsWellTyped) {handle : Option String}
    (h : (c.resolver sorted).siteAt fs handle = .ok site) : site.IsDescribed := by
  unfold siteAt at h
  split at h
  · contradiction
  · obtain ⟨path, -, h⟩ := Failure.bind_eq_ok_iff.mp h
    obtain ⟨volume, -, h⟩ := Failure.bind_eq_ok_iff.mp h
    obtain ⟨description, hdescription, h⟩ := Failure.bind_eq_ok_iff.mp h
    obtain rfl := Except.ok.inj h
    refine ⟨.inr ⟨_, rfl⟩, ?_⟩
    rcases Platform.Local.description_isText hc hdescription with rfl | ⟨s, rfl⟩
    · exact ⟨"", rfl⟩
    · dsimp only
      split <;> exact ⟨_, rfl⟩

end

/-! ## Directories -/

theorem Resolver.site_of_directoryOn {r : Resolver} {category : Option Category} {site : Site}
    {d : ResolvedDirectory} (h : r.directoryOn category site = .ok d) : d.site = site := by
  cases category with
  | none =>
    obtain rfl := Except.ok.inj h
    rfl
  | some category =>
    obtain ⟨path, -, rfl⟩ := Failure.map_eq_ok_iff.mp h
    rfl

namespace Operation

variable {c : Config} {sorted : Bool} {op : Operation} {s s' : Session} {d : ResolvedDirectory}

/-- A directory that an operation gives is described, if what is remembered is. -/
theorem isDescribed_of_success (hc : c.IsWellTyped)
    (hmemo : ∀ site, s.memo = some site → site.IsDescribed)
    (h : (op.perform (c.resolver sorted)).run s = (.ok (.directory d), s')) :
    d.site.IsDescribed := by
  have hbranch := (targets_of_success h).1.found.branch
  match hmodel : d.model with
  | .legacy =>
    have hdirect : op.IsDirect (c.resolver sorted) d.category := by
      rw [IsDirect, hbranch, ResolvedDirectory.branch, hmodel]
    obtain ⟨choice, hchoice⟩ := exists_chooses (c.resolver sorted).selector op.prefers s.files
      s.memo
    obtain ⟨hsettled, -⟩ := settled_of_success h (hdirect.does hchoice)
    obtain ⟨site, hroot, hd⟩ := Failure.bind_eq_ok_iff.mp hsettled
    rw [Resolver.site_of_directoryOn hd]
    exact hchoice.isDescribed_of_root hc hmemo hroot
  | .scoped =>
    have hscoped : op.IsScoped (c.resolver sorted) :=
      ⟨d.category, by rw [hbranch, ResolvedDirectory.branch, hmodel]⟩
    exact Resolver.isDescribed_of_siteAt hc (hscoped.siteAt_of_success h)

end Operation

end BackupLocator
