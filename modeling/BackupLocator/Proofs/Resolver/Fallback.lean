import BackupLocator.Proofs.Resolver.Independence
import BackupLocator.Proofs.Resolver.Preference

/-!
# The first choice and the fallback

What comes of the choice of a storage root is decided by two roots: the removable root that is tried
first, if one is, and the default root, as it is remembered or else reported. The first of them that
may be written to is the choice. The two may be one root, or lie on one path: then what the file
system says of that path holds for both.
-/

namespace BackupLocator

/-! ## The two roots -/

namespace Selector

/-- The removable root that is tried first on a session, if one is: the candidates are looked
through where a removable root is preferred and the version can have several volumes. -/
inductive TriesFirst (sel : Selector) (prefer : Bool) (s : Session) : Option Site → Prop
  | unpreferred : prefer = false → TriesFirst sel prefer s none
  | unoffered : sel.platform.version ≠ .incomparable →
      ¬sel.platform.version.IsAtLeast Version.firstMultiVolume → TriesFirst sel prefer s none
  | listed {sites} : prefer = true →
      sel.platform.version.IsAtLeast Version.firstMultiVolume →
      (sel.candidates.run s).1 = .ok sites → TriesFirst sel prefer s sites.head?

/-- The default root beside a memo, if there is one: the root that is remembered, or else the one
that the platform reports, if its path is known. -/
inductive HasDefault (sel : Selector) : Option Site → Option Site → Prop
  | remembered (site) : HasDefault sel (some site) (some site)
  | reported {root?} : sel.platform.defaultRoot = .ok root? →
      HasDefault sel none (root?.bind StorageRoot.site?)

variable {sel : Selector} {prefer : Bool} {s : Session} {first default memo : Option Site}

theorem TriesFirst.preferred_eq (h : sel.TriesFirst prefer s first) :
    sel.preferred s.files prefer = .ok first := by
  cases h with
  | unpreferred hprefer => exact preferred_of_unoffered (.inl hprefer) s.files
  | unoffered hcomparable hfew =>
    have hone : sel.platform.version.hasManyVolumes = .ok false :=
      Version.hasManyVolumes_eq_false_iff.mpr ⟨hcomparable, hfew⟩
    exact preferred_of_unoffered (.inr hone) s.files
  | @listed sites hprefer hmany hsites =>
    have hoffers : sel.offers prefer = .ok true := by
      rw [offers, if_pos hprefer, Version.hasManyVolumes_eq_true_iff.mpr hmany]
    rw [(sel.does_candidates s).result_eq] at hsites
    obtain ⟨roots, hroots, rfl⟩ := Failure.map_eq_ok_iff.mp hsites
    rw [preferred, hoffers, hroots]
    rfl

theorem TriesFirst.of_preferred (h : sel.preferred s.files prefer = .ok first) :
    sel.TriesFirst prefer s first := by
  cases prefer with
  | false =>
    obtain rfl : none = first := Except.ok.inj h
    exact .unpreferred rfl
  | true =>
    rw [preferred, offers, if_pos rfl] at h
    rcases hmany : sel.platform.version.hasManyVolumes with e | _ | _ <;>
      simp only [hmany] at h
    · contradiction
    · obtain rfl : none = first := Except.ok.inj h
      obtain ⟨hcomparable, hfew⟩ := Version.hasManyVolumes_eq_false_iff.mp hmany
      exact .unoffered hcomparable hfew
    · obtain ⟨roots, hroots, rfl⟩ := Failure.map_eq_ok_iff.mp h
      have hsites : (sel.candidates.run s).1 = .ok (sel.ordered roots) := by
        rw [(sel.does_candidates s).result_eq, hroots]
        rfl
      exact .listed rfl (Version.hasManyVolumes_eq_true_iff.mp hmany) hsites

/-- A root that is chosen is the removable one that was tried first, or the default root where none
was. -/
theorem selectRoot_eq_ok {site : Site} (h : ((sel.selectRoot prefer).run s).1 = .ok site) :
    sel.TriesFirst prefer s (some site) ∨
      sel.TriesFirst prefer s none ∧ (sel.defaultRoot.run s).1 = .ok site := by
  have hselect := sel.does_selectRoot prefer s
  rcases hpreferred : sel.preferred s.files prefer with e | _ | first <;>
    simp only [hpreferred] at hselect <;> rw [hselect.result_eq] at h
  · contradiction
  · exact .inr ⟨.of_preferred hpreferred, (sel.does_defaultRoot s).result_eq.trans h⟩
  · obtain rfl := Except.ok.inj h
    exact .inl (.of_preferred hpreferred)

theorem HasDefault.standing_eq (h : sel.HasDefault memo default) :
    sel.standing memo = default.elim (.error .noStorage) .ok := by
  cases h with
  | remembered site => rfl
  | @reported root? hroot =>
    rw [standing_none, hroot, defaultSite]
    cases root?.bind StorageRoot.site? <;> rfl

end Selector

/-! ## Which of them is picked -/

/-- There is a site, and it may be written to. -/
def FileSystem.Serves (fs : FileSystem) (site? : Option Site) : Prop :=
  ∃ site, site? = some site ∧ fs.canWrite site.path = .ok true

/-- The file system tells whether a site may be written to, if there is a site. -/
def FileSystem.Probes (fs : FileSystem) (site? : Option Site) : Prop :=
  ∀ site, site? = some site → ∃ writable, fs.canWrite site.path = .ok writable

/-- Which of two roots is picked, and what is remembered behind it: each rule is one way, and leaves
no room for the others. -/
inductive Picks (fs : FileSystem) (memo first default : Option Site) :
    Except Failure Site × Option Site → Prop
  | first {site} : first = some site → fs.canWrite site.path = .ok true →
      Picks fs memo first default (.ok site, memo)
  | default {site} : ¬fs.Serves first → default = some site → fs.canWrite site.path = .ok true →
      Picks fs memo first default (.ok site, some site)
  | neither {e} : ¬fs.Serves first → ¬fs.Serves default → e.isUnavailable = true →
      Picks fs memo first default (.error e, none)

variable {fs : FileSystem} {memo first default : Option Site}

/-- What is probed and does not serve is refused. -/
theorem FileSystem.Probes.refused (h : fs.Probes first) (hserves : ¬fs.Serves first) :
    ∀ site ∈ first, fs.canWrite site.path = .ok false := by
  intro site hsite
  obtain ⟨_ | _, hw⟩ := h site hsite
  · exact hw
  · exact absurd ⟨site, hsite, hw⟩ hserves

/-- No root is picked if and only if neither serves. -/
theorem Picks.fails_iff {out : Except Failure Site × Option Site}
    (h : Picks fs memo first default out) :
    (∃ e, out.1 = .error e) ↔ ¬fs.Serves first ∧ ¬fs.Serves default := by
  cases h with
  | first hfirst hw =>
    refine iff_of_false (by simp) ?_
    rintro ⟨hunserved, -⟩
    exact hunserved ⟨_, hfirst, hw⟩
  | default _ hdefault hw =>
    refine iff_of_false (by simp) ?_
    rintro ⟨-, hunserved⟩
    exact hunserved ⟨_, hdefault, hw⟩
  | neither hfirst hdefault _ => exact iff_of_true ⟨_, rfl⟩ ⟨hfirst, hdefault⟩

/-- A default root is settled on as it is picked where the first choice does not serve. -/
theorem Settles.picks {c : Choice} (h : Settles fs (default.elim (.error .noStorage) .ok) c)
    (hfirst : ¬fs.Serves first) (hprobes : fs.Probes default) :
    Picks fs memo first default (c.root, c.memo) := by
  cases default with
  | none =>
    cases h
    exact .neither hfirst (by simp [FileSystem.Serves]) rfl
  | some site =>
    cases h with
    | unprobed hw =>
      obtain ⟨writable, hanswer⟩ := hprobes site rfl
      simp [hw] at hanswer
    | writable hw => exact .default hfirst rfl hw
    | refused hw => exact .neither hfirst (by simp [FileSystem.Serves, hw]) rfl

namespace Resolver

variable {r : Resolver} {prefer : Bool} {s s' : Session} {result : Except Failure Site}

/-- The removable root that is tried first is chosen if it may be written to, and nothing changes.
Else the default root is chosen if it may be, and remembered. Else the choice fails for want of
storage, and nothing is remembered. The default root matters only where the first does not serve. -/
theorem writableRoot_picks (h : (r.writableRoot prefer).run s = (result, s'))
    (htries : r.selector.TriesFirst prefer s first) (hfirst : s.files.Probes first)
    (hdefault : ¬s.files.Serves first →
      r.selector.HasDefault s.memo default ∧ s.files.Probes default) :
    Picks s.files s.memo first default (result, s'.memo) ∧ s'.files = s.files ∧
      ((∃ e, result = .error e) ↔ ¬s.files.Serves first ∧ ¬s.files.Serves default) := by
  have hpreferred := htries.preferred_eq
  have hpicks : Picks s.files s.memo first default (result, s'.memo) ∧ s'.files = s.files := by
    by_cases hserves : s.files.Serves first
    · obtain ⟨site, rfl, hw⟩ := hserves
      obtain ⟨rfl, hfiles, hmemo⟩ := (r.does_writableRoot (.removable hpreferred hw)).of_run h
      rw [hmemo]
      exact ⟨.first rfl hw, hfiles⟩
    · obtain ⟨hhas, hprobes⟩ := hdefault hserves
      obtain ⟨c, hsettles⟩ := exists_settles s.files (r.selector.standing s.memo)
      have hchooses := Chooses.fallback hpreferred (hfirst.refused hserves) hsettles
      obtain ⟨rfl, hfiles, hmemo⟩ := (r.does_writableRoot hchooses).of_run h
      rw [hhas.standing_eq] at hsettles
      rw [hmemo]
      exact ⟨hsettles.picks hserves hprobes, hfiles⟩
  exact ⟨hpicks.1, hpicks.2, hpicks.1.fails_iff⟩

end Resolver

namespace Card

/-- A root on the path of the card under another name. -/
def twin : Site := ⟨path, .null, .str "Twin"⟩

/-- A resolver for a card that is listed among the removable roots too, behind a volume that is not
available. -/
def resolverWithTwin : Resolver :=
  ⟨{ platform 19 with externalRoots := fun _ => .ok [none, some twin.root] }, .unset, false⟩

end Card

/-- A card that may not be written to is refused under both its names, and forgotten. -/
theorem Resolver.writableRoot_picks_on_card :
    let s : Session := ⟨Card.locked, some Card.site, []⟩
    let out := (Card.resolverWithTwin.writableRoot true).run s
    Card.resolverWithTwin.selector.TriesFirst true s (some Card.twin) ∧
      Card.resolverWithTwin.selector.HasDefault s.memo (some Card.site) ∧
      (∃ e, out.1 = .error e) ∧ out.2.memo = none := by
  intro s out
  have hsites : (Card.resolverWithTwin.selector.candidates.run s).1 = .ok [Card.twin] := rfl
  have htries : Card.resolverWithTwin.selector.TriesFirst true s (some Card.twin) :=
    .listed rfl (by decide) hsites
  have hdefault : Card.resolverWithTwin.selector.HasDefault s.memo (some Card.site) :=
    .remembered Card.site
  have hlocked {site : Site} (hpath : site.path = Card.path) :
      s.files.canWrite site.path = .ok false := hpath ▸ rfl
  have hprobes {site : Site} (hpath : site.path = Card.path) : s.files.Probes (some site) := by
    rintro _ ⟨⟩
    exact ⟨false, hlocked hpath⟩
  have hunserved {site : Site} (hpath : site.path = Card.path) : ¬s.files.Serves (some site) := by
    rintro ⟨_, ⟨⟩, hw⟩
    simp [hlocked hpath] at hw
  obtain ⟨hpicks, -, hfails⟩ := Resolver.writableRoot_picks (rfl : _ = (out.1, out.2)) htries
    (hprobes rfl) fun _ => ⟨hdefault, hprobes rfl⟩
  refine ⟨htries, hdefault, hfails.mpr ⟨hunserved rfl, hunserved rfl⟩, ?_⟩
  cases hpicks with
  | neither => rfl

end BackupLocator
