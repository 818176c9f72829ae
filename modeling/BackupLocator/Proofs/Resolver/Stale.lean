import BackupLocator.Proofs.Platform
import BackupLocator.Proofs.Resolver.Direct
import BackupLocator.Proofs.Resolver.Memo

/-!
# A memo that has gone stale

The default root that is remembered may have ceased to be the platform's, or to be writable. An
operation on plain paths that fails because storage is not available has forgotten it. So it does
not fail for that reason again, as long as the platform has a default root that may be written to.
-/

namespace BackupLocator

open BackupLocator.Action

/-! ## Choices that fail -/

variable {sel : Selector} {prefer : Bool} {fs : FileSystem} {memo : Option Site} {c : Choice}

theorem Selector.preferred_available (hlists : sel.platform.ListsMissing) (fs : FileSystem)
    (prefer : Bool) : Failure.Available (sel.preferred fs prefer) := by
  have hversion (n : Int) : Failure.Available (sel.platform.version.compareWith n) := by
    unfold Version.compareWith
    split
    · exact .ok _
    · exact .ok _
    · exact .error rfl
  have hoffers : Failure.Available (sel.offers prefer) := by
    unfold offers
    split
    · exact (hversion _).map _
    · exact .ok false
  unfold preferred
  split
  · rename_i e he
    exact .error (hoffers e he)
  · exact .ok none
  · exact (hlists fs).map _

/-- A default root that is not settled on because storage is not available is forgotten. -/
theorem Settles.memo_of_unavailable {standing : Except Failure Site} (h : Settles fs standing c)
    {e : Failure} (he : c.root = .error e) (hunavailable : e.isUnavailable = true) :
    c.memo = none := by
  cases h with
  | missing | refused => rfl
  | unprobed hw =>
    obtain rfl := Except.error.inj he
    simp [fs.canWrite_available _ _ hw] at hunavailable
  | writable => contradiction

/-- A choice that fails because storage is not available remembers nothing. -/
theorem Chooses.memo_of_unavailable (h : Chooses sel prefer fs memo c)
    (hlists : sel.platform.ListsMissing) {e : Failure} (he : c.root = .error e)
    (hunavailable : e.isUnavailable = true) : c.memo = none := by
  cases h with
  | unlisted hp =>
    obtain rfl := Except.error.inj he
    simp [Selector.preferred_available hlists fs prefer _ hp] at hunavailable
  | unprobed _ hw =>
    obtain rfl := Except.error.inj he
    simp [fs.canWrite_available _ _ hw] at hunavailable
  | removable => contradiction
  | fallback _ _ hsettles => exact hsettles.memo_of_unavailable he hunavailable

/-- Where the standing default root may be written to, storage is available. -/
theorem Chooses.available (h : Chooses sel prefer fs memo c) (hlists : sel.platform.ListsMissing)
    {site : Site} (hstanding : sel.standing memo = .ok site)
    (hwritable : fs.canWrite site.path = .ok true) : Failure.Available c.root := by
  cases h with
  | unlisted hp => exact .error (Selector.preferred_available hlists fs prefer _ hp)
  | unprobed _ hw => exact .error (fs.canWrite_available _ _ hw)
  | removable => exact .ok _
  | fallback _ _ hsettles =>
    rw [hstanding] at hsettles
    dsimp only
    rw [hsettles.root_of_canWrite hwritable]
    exact .ok site

/-- A choice says that storage is not available where it has failed for that reason. -/
theorem Choice.verdict_eq_false_iff :
    c.verdict = .ok false ↔ ∃ e, c.root = .error e ∧ e.isUnavailable = true := by
  unfold verdict
  cases c.root with
  | ok site => simp
  | error e => cases hunavailable : e.isUnavailable <;> simp [hunavailable]

namespace Operation

variable {r : Resolver} {op : Operation} {s : Session} {c : Choice}

/-- An operation fails because storage is not available. -/
def LacksStorage (r : Resolver) (op : Operation) (s : Session) : Prop :=
  ∃ e, ((op.perform r).run s).1 = .error e ∧ e.isUnavailable = true

/-- A directory that cannot be made does not say that storage is missing. -/
theorem madeIn_available (fs : FileSystem) (d : ResolvedDirectory) :
    Failure.Available (Resolver.madeIn fs d) := by
  refine Failure.Only.map ?_ _
  cases h : (fs.makeDirectory d.path true true).1 with
  | ok => exact .ok _
  | error e =>
    rcases FileSystem.makeDirectory_error h with ⟨cause, rfl⟩ | ⟨rfl, -⟩
    · exact .error rfl
    · exact .error rfl

theorem directoryOn_available (r : Resolver) (category : Option Category) (site : Site) :
    Failure.Available (r.directoryOn category site) := by
  unfold Resolver.directoryOn
  split
  · exact .ok _
  · refine Failure.Only.map (.map ?_ _) _
    unfold PackageId.variant
    split
    · exact .ok _
    · exact .ok _
    · exact .error rfl

/-- An operation on plain paths fails because storage is not available where its choice of a root
does, and only there. -/
theorem IsDirect.lacksStorage_iff {category : Option Category} (hop : op.IsDirect r category)
    (h : Chooses r.selector op.prefers s.files s.memo c) :
    op.LacksStorage r s ↔ ∃ e, c.root = .error e ∧ e.isUnavailable = true := by
  unfold LacksStorage
  rw [(hop.does h).result_eq]
  cases c.root with
  | error e => simp [Except.bind, Except.map]
  | ok site =>
    -- Behind the choice nothing fails for want of storage.
    have hlater := ((directoryOn_available r category site).bind (madeIn_available s.files)).map
      Answer.directory
    refine iff_of_false ?_ (by simp)
    rintro ⟨e, he, hunavailable⟩
    simp [hlater e he] at hunavailable

/-- Where an operation on plain paths fails because storage is not available, it is the choice of a
root that has failed so. -/
theorem chooses_of_lacksStorage {category : Option Category} (hop : op.IsDirect r category)
    (h : op.LacksStorage r s) :
    ((op.perform r).run s).2.files = s.files ∧
      ∃ c e, Chooses r.selector op.prefers s.files s.memo c ∧ c.root = .error e ∧
        e.isUnavailable = true ∧ ((op.perform r).run s).2.memo = c.memo := by
  obtain ⟨c, hc⟩ := exists_chooses r.selector op.prefers s.files s.memo
  have hdoes := hop.does hc
  obtain ⟨e, he, hunavailable⟩ := (hop.lacksStorage_iff hc).mp h
  rw [he] at hdoes
  exact ⟨hdoes.files_eq, c, e, hc, he, hunavailable, hdoes.memo_eq⟩

/-! ## A failure that does not come twice -/

/-- Where the platform's default root may be written to, an operation on plain paths that lacks
storage does so once: what was remembered is forgotten. -/
theorem stale_memo_fails_once {d : Site} (hlists : r.platform.ListsMissing)
    (hdefault : defaultSite r.platform.defaultRoot = .ok d)
    (hwritable : s.files.canWrite d.path = .ok true) :
    (∀ (op : Operation) (category : Option Category), op.IsDirect r category →
        op.LacksStorage r s → ¬op.LacksStorage r ((op.perform r).run s).2) ∧
      (((canWriteDefault.perform r).run s).1 = .ok (.flag false) →
        ((canWriteDefault.perform r).run ((canWriteDefault.perform r).run s).2).1 =
          .ok (.flag true)) := by
  constructor
  · intro op category hop hfirst hagain
    obtain ⟨hfiles, c, e, hc, he, hunavailable, hmemo⟩ := chooses_of_lacksStorage hop hfirst
    have hforgotten := hc.memo_of_unavailable hlists he hunavailable
    -- The second time the default root is the platform's, which may be written to.
    obtain ⟨-, c', e', hc', he', hunavailable', -⟩ := chooses_of_lacksStorage hop hagain
    rw [hmemo, hforgotten, hfiles] at hc'
    have havailable := hc'.available hlists hdefault hwritable e' he'
    simp [havailable] at hunavailable'
  · intro hfirst
    obtain ⟨c, hc⟩ := exists_settles s.files (r.selector.standing s.memo)
    have hdoes := does_canWriteDefault hc
    have hverdict : c.verdict = .ok false := by
      have hflag := hdoes.result_eq.symm.trans hfirst
      cases hv : c.verdict with
      | error e => simp [hv, Except.map] at hflag
      | ok writable => simpa [hv, Except.map] using hflag
    obtain ⟨e, he, hunavailable⟩ := Choice.verdict_eq_false_iff.mp hverdict
    have hforgotten := hdoes.memo_eq.trans (hc.memo_of_unavailable he hunavailable)
    have hagain : Settles ((canWriteDefault.perform r).run s).2.files
        (r.selector.standing ((canWriteDefault.perform r).run s).2.memo)
        ⟨.ok d, some d, [d.path]⟩ := by
      rw [hdoes.files_eq, hforgotten, Selector.standing_none]
      exact hdefault ▸ .writable hwritable
    exact (does_canWriteDefault hagain).result_eq

/-- A place that is not there has been configured and remembered before the card was configured. The
first operation finds that out, and the next one finds the card. -/
theorem stale_memo_fails_once_on_card :
    let config (place : Path) : Config :=
      { Config.default with platformVersion := .int 29, storagePlace := .path place }
    let before : Turn := ⟨id, .ofConfig (config (.ofText "/gone")), .defaultRoot⟩
    let r : Resolver := ⟨.ofConfig (config Card.path), .unset, false⟩
    let s := (Session.start Card.empty).after r.package false [before]
    legacy.LacksStorage r s ∧ ¬legacy.LacksStorage r ((legacy.perform r).run s).2 := by
  intro config before r s
  have hlacks : legacy.LacksStorage r s := ⟨_, rfl, rfl⟩
  have hlists : r.platform.ListsMissing := Platform.ofConfig_listsMissing (config Card.path)
  have hdirect : legacy.IsDirect r (some .legacy) := rfl
  exact ⟨hlacks, (stale_memo_fails_once hlists rfl rfl).1 legacy _ hdirect hlacks⟩

end Operation

end BackupLocator
