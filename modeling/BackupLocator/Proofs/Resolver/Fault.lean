import BackupLocator.Proofs.Platform.Volumes
import BackupLocator.Proofs.Resolver.Frame
import BackupLocator.Proofs.Resolver.Stale

/-!
# Failures that do not speak of storage

An operation on plain paths is to fail only because storage is not available, or because its
directory could not be made. Where the values of a configuration are of their kinds, three things
lead to another failure: a removable volume is mounted at a path that is too long, the default root
lies at such a path, or the variant of the build holds a NUL. A stack that runs out over a path with
very many missing parents is not among them, as `FileSystem.makeWithin` has no such limit.
-/

namespace BackupLocator

open BackupLocator.Action

/-- The resolver of a configuration, with the removable roots in their own order or sorted. -/
def Config.resolver (c : Config) (sorted : Bool) : Resolver := ⟨.ofConfig c, c.package, sorted⟩

/-- Whether a failure says that storage is not available, or that a backup directory could not be
made. -/
def Failure.isOfStorage (e : Failure) : Bool := e.isUnavailable || e.isCreation

/-- A build has a variant that no file system takes as a name. -/
def PackageId.HasNulVariant (package : PackageId) : Prop :=
  ∃ variant, package.variant = .ok (some variant) ∧ '\x00' ∈ variant.toList

/-- An operation on plain paths comes upon something that it does not report as a failure of
storage. Each rule is one way. -/
inductive Operation.Stumbles (c : Config) (r : Resolver) (op : Operation)
    (category : Option Category) (s : Session) : Prop
  /-- The removable volumes are asked for, and one is mounted at a path that is too long. -/
  | volume {volumes} : r.selector.offers op.prefers = .ok true →
      c.volumeEntries = .ok (volumes.map .obj) → Platform.Local.HasLongMount s.files volumes →
      Stumbles c r op category s
  /-- It falls to the default root, and the path of that is too long. -/
  | root {tried site} : r.selector.preferred s.files op.prefers = .ok tried →
      (∀ site ∈ tried, s.files.canWrite site.path = .ok false) →
      r.selector.standing s.memo = .ok site → s.files.IsTooLong site.path →
      Stumbles c r op category s
  /-- A root is chosen, and the directory of a category on it is one of a variant with a NUL. -/
  | variant {choice site} : Chooses r.selector op.prefers s.files s.memo choice →
      choice.root = .ok site → category.isSome → r.package.HasNulVariant →
      Stumbles c r op category s

/-! ## Roots of a configuration -/

section

variable {c : Config} {sorted prefer : Bool} {fs : FileSystem} {e : Failure}

/-- Whether removable roots are tried can be told where the version is a number. -/
theorem Selector.exists_offers (hc : c.IsWellTyped) (sorted prefer : Bool) :
    ∃ offered, (c.resolver sorted).selector.offers prefer = .ok offered := by
  obtain ⟨n, hn⟩ := hc.version_eq
  have hversion : (c.resolver sorted).selector.platform.version = .whole n := hn
  unfold offers
  cases prefer with
  | true => exact ⟨_, by rw [if_pos rfl, hversion]; rfl⟩
  | false => exact ⟨false, rfl⟩

theorem Selector.externalRoots_eq {entries : List Json} (h : c.volumeEntries = .ok entries) :
    (c.resolver sorted).selector.platform.externalRoots fs =
      Platform.Local.removableRoots fs entries :=
  Platform.externalRoots_eq h

/-- There may be no default root, but it can be told whether there is one. -/
theorem Config.IsWellTyped.defaultSite_eq_error (hc : c.IsWellTyped)
    (h : defaultSite (Platform.ofConfig c).defaultRoot = .error e) : e = .noStorage := by
  obtain ⟨path?, hpath⟩ := hc.storagePath_eq
  have hroot : (Platform.ofConfig c).defaultRoot = .ok (path?.map fun path =>
      ⟨some path, .null, .str Platform.Local.primaryDescription⟩) := by
    change c.storagePlace.path?.map _ = _
    rw [hpath]
    rfl
  rw [hroot] at h
  cases path? with
  | none => exact (Except.error.inj h).symm
  | some path => contradiction

theorem Config.IsWellTyped.standing_eq_error (hc : c.IsWellTyped) {memo : Option Site}
    (h : (c.resolver sorted).selector.standing memo = .error e) : e = .noStorage := by
  cases memo with
  | some site => contradiction
  | none => exact hc.defaultSite_eq_error h

/-- The preferred root cannot be told only where the volumes cannot be listed. -/
theorem Selector.preferred_eq_error (hc : c.IsWellTyped)
    (h : (c.resolver sorted).selector.preferred fs prefer = .error e) :
    (c.resolver sorted).selector.offers prefer = .ok true ∧
      ∃ volumes, c.volumeEntries = .ok (volumes.map .obj) ∧
        Platform.Local.HasLongMount fs volumes ∧ ∃ path, e = .system ⟨.nameTooLong, path⟩ := by
  obtain ⟨volumes, hvolumes, htyped⟩ := hc.volumeEntries_eq
  obtain ⟨offered, hoffers⟩ := exists_offers hc sorted prefer
  unfold preferred at h
  rw [hoffers] at h
  cases offered with
  | false => contradiction
  | true =>
    refine ⟨hoffers, volumes, hvolumes, ?_⟩
    rw [externalRoots_eq hvolumes] at h
    cases hroots : Platform.Local.removableRoots fs (volumes.map .obj) with
    | ok roots => simp [hroots, Except.map] at h
    | error e' =>
      obtain rfl : e' = e := by simpa [hroots, Except.map] using h
      exact Platform.Local.removableRoots_eq_error htyped hroots

theorem Selector.preferred_of_hasLongMount (hc : c.IsWellTyped)
    {volumes : List (List (String × Json))}
    (hoffers : (c.resolver sorted).selector.offers prefer = .ok true)
    (hvolumes : c.volumeEntries = .ok (volumes.map .obj))
    (hlong : Platform.Local.HasLongMount fs volumes) :
    ∃ path, (c.resolver sorted).selector.preferred fs prefer =
      .error (.system ⟨.nameTooLong, path⟩) := by
  obtain ⟨volumes', hvolumes', htyped⟩ := hc.volumeEntries_eq
  have hsame : volumes.map Json.obj = volumes'.map .obj :=
    Except.ok.inj (hvolumes.symm.trans hvolumes')
  obtain rfl := (List.map_inj_right fun _ _ => Json.obj.inj).mp hsame
  obtain ⟨e, he⟩ := Platform.Local.removableRoots_of_hasLongMount htyped hlong
  obtain ⟨-, path, rfl⟩ := Platform.Local.removableRoots_eq_error htyped he
  refine ⟨path, ?_⟩
  unfold preferred
  rw [hoffers]
  dsimp only
  rw [externalRoots_eq hvolumes, he]
  rfl

/-- A preferred root has been looked up when it was listed. -/
theorem Selector.isDirectory_of_preferred {site : Site}
    (h : (c.resolver sorted).selector.preferred fs prefer = .ok (some site)) :
    fs.isDirectory site.path = .ok true := by
  obtain ⟨roots, root, hroots, hmem, hsite⟩ := exists_root_of_preferred _ h
  obtain ⟨entries, -, hroots⟩ := Failure.bind_eq_ok_iff.mp hroots
  obtain ⟨path, hpath, hdirectory⟩ :=
    Platform.Local.isDirectory_of_mem_removableRoots hroots hmem
  obtain ⟨path', hpath', rfl⟩ := Option.map_eq_some_iff.mp hsite
  obtain rfl : path = path' := Option.some.inj (hpath.symm.trans hpath')
  exact hdirectory

end

/-! ## Choices and directories -/

namespace Resolver

variable {r : Resolver} {fs : FileSystem} {d : ResolvedDirectory}

theorem madeIn_of_hasNul (h : d.path.hasNul = true) : madeIn fs d = .error .malformed := by
  rw [madeIn, FileSystem.makeDirectory_of_hasNul h]
  rfl

/-- Where a path can be one, all that can be said is that its directory could not be made. -/
theorem madeIn_isCreation (h : d.path.hasNul = false) :
    Failure.Only (fun e => e.isCreation = true) (madeIn fs d) := by
  refine .map ?_ _
  cases hmake : (fs.makeDirectory d.path true true).1 with
  | ok => exact .ok ()
  | error e =>
    obtain ⟨cause, rfl⟩ :=
      (FileSystem.making_makeDirectory fs d.path true true).system_error h hmake
    exact .error rfl

/-- A place on a root can be told where the variant of the build can. -/
theorem exists_directoryOn (h : ∃ variant, r.package.variant = .ok variant)
    (category : Option Category) (site : Site) : ∃ d, r.directoryOn category site = .ok d := by
  obtain ⟨variant, hvariant⟩ := h
  cases category with
  | none => exact ⟨_, rfl⟩
  | some category =>
    unfold directoryOn Layout.backupPath Layout.withVariant
    rw [hvariant]
    exact ⟨_, rfl⟩

/-- On a root without a NUL a directory holds one where it is that of a variant with a NUL. -/
theorem hasNul_directoryOn {category : Option Category} {site : Site}
    (hsite : site.path.hasNul = false) (h : r.directoryOn category site = .ok d) :
    d.path.hasNul = true ↔ category.isSome ∧ r.package.HasNulVariant := by
  have hroot : (Layout.legacyRoot site.path).hasNul = false := by
    rw [Bool.eq_false_iff, ne_eq, Layout.legacyRoot, Path.hasNul_child hsite]
    decide
  cases category with
  | none =>
    obtain rfl := Except.ok.inj h
    simp [hroot]
  | some category =>
    obtain ⟨path, hpath, rfl⟩ := Failure.map_eq_ok_iff.mp h
    simpa [PackageId.HasNulVariant] using Layout.hasNul_backupPath hroot hpath

end Resolver

namespace Operation

variable {c : Config} {sorted : Bool} {op : Operation} {category : Option Category} {s : Session}
  {choice : Choice}

/-- Where no root is chosen, storage is not available, or the operation has stumbled. -/
theorem stumbles_of_error (hc : c.IsWellTyped) {e : Failure}
    (h : Chooses (c.resolver sorted).selector op.prefers s.files s.memo choice)
    (he : choice.root = .error e) (havailable : e.isUnavailable = false) :
    op.Stumbles c (c.resolver sorted) category s := by
  cases h with
  | unlisted hp =>
    obtain ⟨hoffers, volumes, hvolumes, hlong, -⟩ := Selector.preferred_eq_error hc hp
    exact .volume hoffers hvolumes hlong
  | unprobed hp hw =>
    have hshort := FileSystem.not_isTooLong_of_isDirectory (Selector.isDirectory_of_preferred hp)
    exact absurd (FileSystem.canWrite_eq_error_iff.mp hw).1 hshort
  | removable => contradiction
  | fallback hp htried hsettles =>
    cases hs : (c.resolver sorted).selector.standing s.memo with
    | error e' =>
      rw [hs] at hsettles
      cases hsettles
      obtain rfl := Except.error.inj he
      obtain rfl := hc.standing_eq_error hs
      contradiction
    | ok site =>
      rw [hs] at hsettles
      cases hsettles with
      | unprobed hw => exact .root hp htried hs (FileSystem.canWrite_eq_error_iff.mp hw).1
      | writable => contradiction
      | refused =>
        obtain rfl := Except.error.inj he
        contradiction

/-- On a root that is chosen an operation makes a directory, whose path holds a NUL where it is that
of a variant with a NUL. -/
theorem exists_made_of_root (hc : c.IsWellTyped) {site : Site}
    (hop : op.IsDirect (c.resolver sorted) category)
    (h : Chooses (c.resolver sorted).selector op.prefers s.files s.memo choice)
    (hroot : choice.root = .ok site) :
    ∃ d, ((op.perform (c.resolver sorted)).run s).1 =
        (Resolver.madeIn s.files d).map .directory ∧
      (d.path.hasNul = true ↔ category.isSome ∧ c.package.HasNulVariant) := by
  obtain ⟨d, hd⟩ := Resolver.exists_directoryOn (r := c.resolver sorted)
    hc.variant_eq category site
  have hsite := FileSystem.hasNul_of_canWrite (h.canWrite_of_root hroot)
  refine ⟨d, ?_, Resolver.hasNul_directoryOn hsite hd⟩
  rw [(hop.does h).result_eq, hroot]
  simp only [Except.bind, hd]

/-- On a root that is chosen an operation succeeds, fails to make its directory, or has stumbled. -/
theorem isCreation_of_root (hc : c.IsWellTyped) {site : Site}
    (hop : op.IsDirect (c.resolver sorted) category)
    (h : Chooses (c.resolver sorted).selector op.prefers s.files s.memo choice)
    (hroot : choice.root = .ok site)
    (hwell : ¬op.Stumbles c (c.resolver sorted) category s) :
    Failure.Only (fun e => e.isCreation = true)
      ((op.perform (c.resolver sorted)).run s).1 := by
  obtain ⟨d, hmade, hnul⟩ := exists_made_of_root hc hop h hroot
  have hpath : d.path.hasNul = false := by
    refine Bool.eq_false_iff.mpr fun hpath => ?_
    obtain ⟨hcategory, hvariant⟩ := hnul.mp hpath
    exact hwell (.variant h hroot hcategory hvariant)
  rw [hmade]
  exact (Resolver.madeIn_isCreation hpath).map _

/-- An operation that has stumbled fails, and not for want of storage. -/
theorem Stumbles.fails (hc : c.IsWellTyped)
    (hop : op.IsDirect (c.resolver sorted) category)
    (h : op.Stumbles c (c.resolver sorted) category s) :
    ∃ e, ((op.perform (c.resolver sorted)).run s).1 = .error e ∧
      e.isOfStorage = false := by
  cases h with
  | volume hoffers hvolumes hlong =>
    obtain ⟨path, hpreferred⟩ := Selector.preferred_of_hasLongMount hc hoffers hvolumes hlong
    exact ⟨_, (hop.does (.unlisted hpreferred)).result_eq, rfl⟩
  | root hp htried hs hlong =>
    have hw := FileSystem.canWrite_eq_error_iff.mpr ⟨hlong, rfl⟩
    have hsettles := Settles.unprobed hw
    rw [← hs] at hsettles
    exact ⟨_, (hop.does (.fallback hp htried hsettles)).result_eq, rfl⟩
  | variant hchoice hroot hcategory hvariant =>
    obtain ⟨d, hmade, hnul⟩ := exists_made_of_root hc hop hchoice hroot
    refine ⟨.malformed, ?_, rfl⟩
    rw [hmade, Resolver.madeIn_of_hasNul (hnul.mpr ⟨hcategory, hvariant⟩)]
    rfl

/-- On configured volumes an operation on plain paths succeeds, or fails because storage is not
available or because its directory could not be made, if and only if it does not stumble. Where a
root has been chosen, only the directory can be what it fails for. -/
theorem fails_for_storage_iff (hc : c.IsWellTyped)
    (hop : op.IsDirect (c.resolver sorted) category) :
    let r := c.resolver sorted
    let outcome := ((op.perform r).run s).1
    (Failure.Only (fun e => e.isOfStorage = true) outcome ↔ ¬op.Stumbles c r category s) ∧
      ∀ choice site, Chooses r.selector op.prefers s.files s.memo choice → choice.root = .ok site →
        ¬op.Stumbles c r category s → Failure.Only (fun e => e.isCreation = true) outcome := by
  intro r outcome
  refine ⟨⟨fun h hstumbles => ?_, fun hwell => ?_⟩,
    fun choice site hchoice hroot => isCreation_of_root hc hop hchoice hroot⟩
  · obtain ⟨e, he, hother⟩ := hstumbles.fails hc hop
    simp [h e he] at hother
  · obtain ⟨choice, hchoice⟩ := exists_chooses r.selector op.prefers s.files s.memo
    cases hroot : choice.root with
    | ok site =>
      intro e he
      have hcreation := isCreation_of_root hc hop hchoice hroot hwell e he
      simp [Failure.isOfStorage, hcreation]
    | error e =>
      have hresult := (hop.does hchoice).result_eq
      rw [hroot] at hresult
      rw [show outcome = .error e from hresult]
      refine .error ?_
      cases havailable : e.isUnavailable with
      | true => rw [Failure.isOfStorage, havailable, Bool.true_or]
      | false => exact absurd (stumbles_of_error hc hchoice hroot havailable) hwell

end Operation

/-! ## A card that is configured -/

/-- The configuration of a card, for one build. -/
def Card.config (package : String) : Config :=
  { Config.default with
    platformVersion := .int 29
    packageId := .str package
    storagePlace := .path path }

theorem Card.config_isWellTyped (package : String) : (config package).IsWellTyped :=
  { Config.default_isWellTyped with
    platformVersion := ⟨29, rfl⟩
    packageId := .inr ⟨package, rfl⟩
    storagePlace := by
      intro v h
      contradiction }

namespace Operation

/-- On a card without room the directory cannot be made, and that is what is said. -/
theorem fails_for_storage_on_card :
    let r := (Card.config PackageId.production).resolver false
    let outcome := ((legacy.perform r).run (.start Card.crowded)).1
    (∃ e, outcome = .error e) ∧ Failure.Only (fun e => e.isCreation = true) outcome := by
  intro r outcome
  have hdirect : legacy.IsDirect r (some .legacy) := rfl
  have hwell : ¬legacy.Stumbles (Card.config PackageId.production) r (some .legacy)
      (.start Card.crowded) := by
    rintro (⟨hoffers, -, -⟩ | ⟨-, -, hs, hlong⟩ | ⟨-, -, -, ⟨variant, hvariant, -⟩⟩)
    · have htried : false = true := Except.ok.inj hoffers
      contradiction
    · obtain rfl := Except.ok.inj hs
      have hfound : Card.crowded.isDirectory Card.path = .ok true := rfl
      exact FileSystem.not_isTooLong_of_isDirectory hfound hlong
    · have hnone : none = some variant := Except.ok.inj hvariant
      contradiction
  let site : Site := ⟨Card.path, .null, .str Platform.Local.primaryDescription⟩
  have htried : ∀ site ∈ (none : Option Site), Card.crowded.canWrite site.path = .ok false := by
    simp
  have hsettles : Settles Card.crowded (.ok site) ⟨.ok site, some site, [Card.path]⟩ :=
    .writable rfl
  have hchoice : Chooses r.selector false Card.crowded none _ := .fallback rfl htried hsettles
  have hfails := fails_for_storage_iff (s := .start Card.crowded)
    (Card.config_isWellTyped PackageId.production) hdirect
  exact ⟨⟨_, rfl⟩, hfails.2 _ site hchoice rfl hwell⟩

/-- A variant with a NUL leads to a failure that does not speak of storage, though the card may be
written to. -/
theorem fails_for_no_storage_on_card :
    let c := Card.config (PackageId.production ++ ".\x00")
    c.IsWellTyped ∧ legacy.IsDirect (c.resolver false) (some .legacy) ∧
      Card.empty.canWrite Card.path = .ok true ∧
      ((legacy.perform (c.resolver false)).run (.start Card.empty)).1 = .error .malformed :=
  ⟨Card.config_isWellTyped _, rfl, rfl, rfl⟩

end Operation

end BackupLocator
