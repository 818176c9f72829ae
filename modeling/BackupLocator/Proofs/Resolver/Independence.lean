import BackupLocator.Proofs.Resolver.ByHandle

/-!
# What an operation does not depend on

Two runs of an operation, in worlds that differ. On plain paths a run is decided by the root that is
preferred and by the standing default root, and by a handle it is decided by what that comes to. So
runs that agree in this come to the same, whatever else is different about their worlds.
-/

namespace BackupLocator

open BackupLocator.Action

/-- Two runs come to the same: they give one result, and leave the same files and the same memo
behind. -/
structure SameOutcome (out out' : Except Failure Answer × Session) : Prop where
  result : out'.1 = out.1
  files : out'.2.files = out.2.files
  memo : out'.2.memo = out.2.memo

/-! ## Choices in two worlds -/

section

variable {sel sel' : Selector} {prefer prefer' : Bool} {fs : FileSystem} {memo : Option Site}
  {c : Choice}

theorem Selector.standing_congr (h : sel'.platform.defaultRoot = sel.platform.defaultRoot)
    (memo : Option Site) : sel'.standing memo = sel.standing memo := by
  cases memo with
  | none => rw [standing_none, standing_none, h]
  | some site => rfl

theorem Selector.preferred_congr (hsorted : sel'.sorted = sel.sorted)
    (hversion : sel'.platform.version = sel.platform.version)
    (hroots : sel'.platform.externalRoots fs = sel.platform.externalRoots fs) (prefer : Bool) :
    sel'.preferred fs prefer = sel.preferred fs prefer := by
  have hordered (roots : List (Option StorageRoot)) : sel'.ordered roots = sel.ordered roots := by
    rw [ordered, ordered, hsorted]
  simp only [preferred, offers, hversion, hroots, hordered]

/-- Without a preference, or where there can be only one volume, the removable roots are not asked
for. -/
theorem Selector.preferred_of_unoffered
    (h : prefer = false ∨ sel.platform.version.hasManyVolumes = .ok false) (fs : FileSystem) :
    sel.preferred fs prefer = .ok none := by
  have hoffers : sel.offers prefer = .ok false := by
    unfold offers
    rcases h with rfl | hversion
    · rfl
    · split
      · exact hversion
      · rfl
  rw [preferred, hoffers]

/-- A choice is decided by the root that is preferred and by the standing default root. -/
theorem Chooses.congr (h : Chooses sel prefer fs memo c)
    (hpreferred : sel'.preferred fs prefer' = sel.preferred fs prefer)
    (hstanding : sel'.standing memo = sel.standing memo) : Chooses sel' prefer' fs memo c := by
  cases h with
  | unlisted hp => exact .unlisted (hpreferred.trans hp)
  | unprobed hp hw => exact .unprobed (hpreferred.trans hp) hw
  | removable hp hw => exact .removable (hpreferred.trans hp) hw
  | fallback hp htried hsettles =>
    exact .fallback (hpreferred.trans hp) htried (hstanding ▸ hsettles)

end

/-- A version is a number that is another one at least. -/
def Version.IsAtLeast (m : Int) : Version → Prop
  | .whole n => m ≤ n
  | .real x => x.compareInt m = some .eq ∨ x.compareInt m = some .gt
  | .incomparable => False

instance (m : Int) : (v : Version) → Decidable (v.IsAtLeast m)
  | .whole n => inferInstanceAs (Decidable (m ≤ n))
  | .real x => inferInstanceAs (Decidable (x.compareInt m = some .eq ∨ x.compareInt m = some .gt))
  | .incomparable => inferInstanceAs (Decidable False)

theorem Version.hasManyVolumes_eq {v : Version} (h : v ≠ .incomparable) :
    v.hasManyVolumes = .ok (v.IsAtLeast firstMultiVolume) := by
  cases v with
  | whole n =>
    refine congrArg Except.ok (decide_eq_decide.mpr ?_)
    rw [Option.some.injEq, Option.some.injEq, Std.compare_eq_gt, Std.compare_eq_iff_eq, IsAtLeast]
    omega
  | real x => exact congrArg Except.ok (decide_eq_decide.mpr Iff.rfl)
  | incomparable => contradiction

theorem Version.hasManyVolumes_eq_true_iff {v : Version} :
    v.hasManyVolumes = .ok true ↔ v.IsAtLeast firstMultiVolume := by
  by_cases hv : v = .incomparable
  · subst hv
    exact iff_of_false (by rintro ⟨⟩) id
  · simp [hasManyVolumes_eq hv]

theorem Version.hasManyVolumes_eq_false_iff {v : Version} :
    v.hasManyVolumes = .ok false ↔ v ≠ .incomparable ∧ ¬v.IsAtLeast firstMultiVolume := by
  by_cases hv : v = .incomparable
  · subst hv
    exact iff_of_false (by rintro ⟨⟩) (fun h => h.1 rfl)
  · simp [hasManyVolumes_eq hv, hv]

/-- Below the versions that can have several volumes there is only one. -/
theorem Version.hasManyVolumes_of_lt {n : Int} (h : n < firstMultiVolume) :
    (whole n).hasManyVolumes = .ok false := by
  rw [hasManyVolumes_eq (by simp), Except.ok.injEq, decide_eq_false_iff_not]
  exact Int.not_le.mpr h

namespace Resolver

variable {r r' : Resolver}

theorem directoryOn_congr (h : r'.package = r.package) (category : Option Category) :
    r'.directoryOn category = r.directoryOn category := by
  unfold directoryOn
  rw [h]

/-- What a handle comes to is decided by the platform's answers about it. -/
theorem directoryAt_congr {fs : FileSystem} (hpackage : r'.package = r.package)
    (hhandles : r'.platform.handlePath fs = r.platform.handlePath fs)
    (hdescription : r'.platform.description = r.platform.description) (category : Category)
    (handle : Option String) :
    r'.directoryAt fs category handle = r.directoryAt fs category handle := by
  simp only [directoryAt, siteAt, hpackage, hhandles, hdescription]

end Resolver

namespace Operation

/-- An operation asks for backups in the older way, by itself or as a category. -/
inductive AsksLegacy : Operation → Prop
  | alone : AsksLegacy .legacy
  | tag (handle prefer) : AsksLegacy (.directory (.tag "legacy") handle prefer)
  | category (handle prefer) : AsksLegacy (.directory (.category .legacy) handle prefer)

theorem AsksLegacy.isDirect {op : Operation} (h : op.AsksLegacy) (r : Resolver) :
    op.IsDirect r (some .legacy) := by
  cases h <;> rfl

theorem AsksLegacy.prefers_eq {op : Operation} (h : op.AsksLegacy) : op.prefers = false := by
  cases h <;> rfl

variable {r r' : Resolver} {op op' : Operation} {s s' : Session}

/-! ## Two runs -/

/-- On plain paths two runs come to the same if one root is preferred in both, or none, and they
have the same default root. -/
theorem IsDirect.sameOutcome {category : Option Category} (hop : op.IsDirect r category)
    (hop' : op'.IsDirect r' category) (hpackage : r'.package = r.package)
    (hfiles : s'.files = s.files) (hmemo : s'.memo = s.memo)
    (hdefault : r'.platform.defaultRoot = r.platform.defaultRoot)
    (hpreferred : r'.selector.preferred s.files op'.prefers =
      r.selector.preferred s.files op.prefers) :
    SameOutcome ((op.perform r).run s) ((op'.perform r').run s') := by
  obtain ⟨c, hc⟩ := exists_chooses r.selector op.prefers s.files s.memo
  have hc' : Chooses r'.selector op'.prefers s'.files s'.memo c := by
    rw [hfiles, hmemo]
    exact hc.congr hpreferred (Selector.standing_congr hdefault s.memo)
  have hdoes := hop.does hc
  have hdoes' := hop'.does hc'
  rw [hfiles, Resolver.directoryOn_congr hpackage] at hdoes'
  exact ⟨hdoes'.result_eq.trans hdoes.result_eq.symm, hdoes'.files_eq.trans hdoes.files_eq.symm,
    hdoes'.memo_eq.trans hdoes.memo_eq.symm⟩

/-- By one handle two runs give the same result and leave the same files behind, and each keeps what
it remembers. -/
theorem IsScoped.sameOutcome (hop : op.IsScoped r) (hbranch : op'.branch? r' = op.branch? r)
    (hhandle : op'.handle? = op.handle?) (hpackage : r'.package = r.package)
    (hfiles : s'.files = s.files)
    (hhandles : r'.platform.handlePath s.files = r.platform.handlePath s.files)
    (hdescription : r'.platform.description = r.platform.description) :
    let out := (op.perform r).run s
    let out' := (op'.perform r').run s'
    out'.1 = out.1 ∧ out'.2.files = out.2.files ∧ out.2.memo = s.memo ∧ out'.2.memo = s'.memo := by
  intro out out'
  obtain ⟨category, paths, hbranched, hdoes⟩ := hop.does s
  have hop' : op'.IsScoped r' := ⟨some category, hbranch.trans hbranched⟩
  obtain ⟨category', paths', hbranched', hdoes'⟩ := hop'.does s'
  obtain rfl : category' = category := by
    simpa [hbranch, hbranched, eq_comm] using hbranched'
  rw [hfiles, hhandle, Resolver.directoryAt_congr hpackage hhandles hdescription] at hdoes'
  exact ⟨hdoes'.result_eq.trans hdoes.result_eq.symm, hdoes'.files_eq.trans hdoes.files_eq.symm,
    hdoes.memo_eq, hdoes'.memo_eq⟩

/-- Two runs for one build in the same files. Backups in the older way depend on the default root
alone. By a handle an operation depends on the platform's answers about that, and keeps what is
remembered. On plain paths it does not depend on a handle, and it depends on the removable roots
only where they are preferred and the version can have several volumes. -/
theorem outcome_is_independent (r r' : Resolver) (op op' : Operation) (s s' : Session)
    (hpackage : r'.package = r.package) (hfiles : s'.files = s.files) :
    let out := (op.perform r).run s
    let out' := (op'.perform r').run s'
    (op.AsksLegacy → op'.AsksLegacy → r'.platform.defaultRoot = r.platform.defaultRoot →
        s'.memo = s.memo → SameOutcome out out') ∧
      (op.IsScoped r → op'.branch? r' = op.branch? r → op'.handle? = op.handle? →
        r'.platform.handlePath s.files = r.platform.handlePath s.files →
        r'.platform.description = r.platform.description →
        out'.1 = out.1 ∧ out'.2.files = out.2.files ∧ out.2.memo = s.memo ∧
          out'.2.memo = s'.memo) ∧
      ∀ category, op.IsDirect r category → op'.IsDirect r' category → op'.prefers = op.prefers →
        r'.platform.version = r.platform.version →
        r'.platform.defaultRoot = r.platform.defaultRoot → s'.memo = s.memo →
        (r'.sorted = r.sorted →
          r'.platform.externalRoots s.files = r.platform.externalRoots s.files →
          SameOutcome out out') ∧
        (op.prefers = false ∨ r.platform.version.hasManyVolumes = .ok false →
          SameOutcome out out') := by
  intro out out'
  refine ⟨?older, ?byHandle, ?plain⟩
  case older =>
    intro hop hop' hdefault hmemo
    refine (hop.isDirect r).sameOutcome (hop'.isDirect r') hpackage hfiles hmemo hdefault ?_
    rw [hop.prefers_eq, hop'.prefers_eq, Selector.preferred_false, Selector.preferred_false]
  case byHandle =>
    intro hop hbranch hhandle hhandles hdescription
    exact hop.sameOutcome hbranch hhandle hpackage hfiles hhandles hdescription
  case plain =>
    intro category hop hop' hprefers hversion hdefault hmemo
    refine ⟨fun hsorted hroots => ?_, fun hunoffered => ?_⟩
    · refine hop.sameOutcome hop' hpackage hfiles hmemo hdefault ?_
      rw [hprefers]
      exact Selector.preferred_congr hsorted hversion hroots op.prefers
    · refine hop.sameOutcome hop' hpackage hfiles hmemo hdefault ?_
      have hnone : r.selector.preferred s.files op.prefers = .ok none :=
        Selector.preferred_of_unoffered hunoffered s.files
      have hnone' : r'.selector.preferred s.files op.prefers = .ok none :=
        Selector.preferred_of_unoffered (hversion ▸ hunoffered) s.files
      rw [hprefers, hnone, hnone']

/-- The card beside worlds that differ in one thing and another: what handles lead to, which roots
can be removed and in which order they are tried, and the memo. -/
theorem outcome_is_independent_on_card :
    let card (version : Int) : Resolver := ⟨Card.platform version, .unset, false⟩
    let handleless (version : Int) : Resolver :=
      ⟨{ Card.platform version with handlePath := fun _ _ => .error (.badHandle .missing) }, .unset,
        false⟩
    let listed (version : Int) : Resolver :=
      ⟨{ Card.platform version with externalRoots := fun _ => .ok [some Card.site.root] }, .unset,
        true⟩
    let s := Session.start Card.empty
    let s' : Session := { s with memo := some Card.site }
    SameOutcome ((legacy.perform (card 29)).run s)
        (((directory (.tag "legacy") (some "?") true).perform (handleless 30)).run s) ∧
      (((full (some "?") true).perform (listed 30)).run s').1 =
        (((full (some "?") false).perform (card 30)).run s).1 ∧
      SameOutcome (((full none true).perform (card 29)).run s)
        (((full (some "?") true).perform (handleless 29)).run s) ∧
      SameOutcome (((legacyRoot true).perform (card 18)).run s)
        (((legacyRoot true).perform (listed 18)).run s) := by
  intro card handleless listed s s'
  obtain ⟨hlegacy, -, -⟩ := outcome_is_independent (card 29) (handleless 30) legacy
    (directory (.tag "legacy") (some "?") true) s s rfl rfl
  obtain ⟨-, hscoped, -⟩ := outcome_is_independent (card 30) (listed 30)
    (full (some "?") false) (full (some "?") true) s s' rfl rfl
  obtain ⟨-, -, hhandle⟩ := outcome_is_independent (card 29) (handleless 29) (full none true)
    (full (some "?") true) s s rfl rfl
  obtain ⟨-, -, hroots⟩ := outcome_is_independent (card 18) (listed 18) (legacyRoot true)
    (legacyRoot true) s s rfl rfl
  refine ⟨hlegacy .alone (.tag (some "?") true) rfl rfl, ?_, ?_, ?_⟩
  · exact (hscoped ⟨some .full, rfl⟩ rfl rfl rfl rfl).1
  · exact (hhandle (some .full) rfl rfl rfl rfl rfl rfl).1 rfl rfl
  · have hone : (card 18).platform.version.hasManyVolumes = .ok false :=
      Version.hasManyVolumes_of_lt (by decide)
    exact (hroots none rfl rfl rfl rfl rfl rfl).2 (.inr hone)

end Operation

end BackupLocator
