import BackupLocator.Proofs.Action.Effect
import BackupLocator.Proofs.Resolver.Plan
import BackupLocator.Proofs.Selector

/-!
# The choice of a storage root

How a resolver comes to a storage root that may be written to, as a judgement: each rule is one way
in which the choice ends, with the memo that it leaves behind and the paths that it may check. The
root is the removable one that is preferred, if that may be written to, and else the default root.
-/

namespace BackupLocator

open BackupLocator.Action

/-! ## The roots that there are to choose from -/

namespace Selector

variable (sel : Selector)

/-- The default root that is remembered, or else the one that will be: the one that the platform's
answer leads to. -/
def standing : Option Site → Except Failure Site
  | some site => .ok site
  | none => defaultSite sel.platform.defaultRoot

/-- Whether removable roots are tried at all. -/
def offers (prefer : Bool) : Except Failure Bool :=
  if prefer then sel.platform.version.hasManyVolumes else .ok false

/-- The removable sites among some roots, in the order in which they are tried. -/
def ordered (roots : List (Option StorageRoot)) : List Site :=
  if sel.sorted then sortedByPath (removableSites roots) else removableSites roots

/-- The removable root that is preferred to the default root, if there is one. -/
def preferred (fs : FileSystem) (prefer : Bool) : Except Failure (Option Site) :=
  match sel.offers prefer with
  | .error e => .error e
  | .ok false => .ok none
  | .ok true => (sel.platform.externalRoots fs).map fun roots => (sel.ordered roots).head?

/-- A site that is preferred is one of the removable sites among those that the platform lists. -/
theorem mem_removableSites_of_preferred {fs : FileSystem} {prefer : Bool} {site : Site}
    (h : sel.preferred fs prefer = .ok (some site)) :
    ∃ roots, sel.platform.externalRoots fs = .ok roots ∧ site ∈ removableSites roots := by
  unfold preferred at h
  split at h
  · contradiction
  · simp at h
  cases hroots : sel.platform.externalRoots fs with
  | error e => simp [hroots, Except.map] at h
  | ok roots =>
    have hhead : (sel.ordered roots).head? = some site := by simpa [hroots, Except.map] using h
    refine ⟨roots, rfl, ?_⟩
    have hordered := List.mem_of_mem_head? hhead
    unfold ordered sortedByPath at hordered
    split at hordered
    · exact List.mem_mergeSort.mp hordered
    · exact hordered

/-- A root that is preferred is one of those that the platform lists. -/
theorem exists_root_of_preferred {fs : FileSystem} {prefer : Bool} {site : Site}
    (h : sel.preferred fs prefer = .ok (some site)) :
    ∃ roots root, sel.platform.externalRoots fs = .ok roots ∧ some root ∈ roots ∧
      root.site? = some site := by
  obtain ⟨roots, hroots, hmem⟩ := sel.mem_removableSites_of_preferred h
  obtain ⟨entry, hentry, hsite⟩ := List.mem_filterMap.mp (List.mem_filter.mp hmem).1
  obtain ⟨root, rfl, hroot⟩ := Option.bind_eq_some_iff.mp hsite
  exact ⟨roots, root, hroots, hentry, hroot⟩

@[simp]
theorem standing_some (site : Site) : sel.standing (some site) = .ok site := rfl

@[simp]
theorem standing_none : sel.standing none = defaultSite sel.platform.defaultRoot := rfl

/-- Without a preference no removable root is looked for. -/
@[simp]
theorem preferred_false (fs : FileSystem) : sel.preferred fs false = .ok none := rfl

theorem does_invalidate (s : Session) : invalidate.Does s (.ok ()) s.files none [] := by
  rcases s with ⟨files, _ | site, journal⟩
  · exact ⟨[], rfl, by simp⟩
  · exact ⟨[.noted _], rfl, by simp⟩

/-- The default root is the standing one, and is remembered from then on. -/
theorem does_defaultRoot (s : Session) :
    sel.defaultRoot.Does s (sel.standing s.memo) s.files (sel.standing s.memo).toOption [] := by
  rcases s with ⟨files, _ | site, journal⟩
  · rcases sel with ⟨⟨version, answer, externalRoots, description, handlePath⟩, sorted⟩
    rcases answer with e | _ | ⟨_ | path, handle, description⟩
    · exact ⟨[.defaultRoot _], rfl, by simp⟩
    · exact ⟨[.noted _, .defaultRoot _], rfl, by simp⟩
    · exact ⟨[.noted _, .defaultRoot _], rfl, by simp⟩
    · exact ⟨[.defaultRoot _], rfl, by simp⟩
  · exact ⟨[], rfl, by simp⟩

theorem does_candidates (s : Session) :
    sel.candidates.Does s ((sel.platform.externalRoots s.files).map sel.ordered) s.files s.memo
      [] := by
  have hask := Does.askExternalRoots sel.platform s
  unfold candidates
  cases h : sel.platform.externalRoots s.files with
  | error e => exact (h ▸ hask).bind_error
  | ok roots => exact (h ▸ hask).bind fun journal => .pure _ ⟨s.files, s.memo, journal⟩

theorem does_offersRemovable (prefer : Bool) (s : Session) :
    (sel.offersRemovable prefer).Does s (sel.offers prefer) s.files s.memo [] := by
  unfold offersRemovable offers
  cases prefer with
  | true => exact .ofExcept _ s
  | false => exact .pure false s

/-- The root that is selected is the preferred one, if there is one, and else the standing default
root. -/
theorem does_selectRoot (prefer : Bool) (s : Session) :
    match sel.preferred s.files prefer with
    | .error e => (sel.selectRoot prefer).Does s (.error e) s.files s.memo []
    | .ok (some site) => (sel.selectRoot prefer).Does s (.ok site) s.files s.memo []
    | .ok none => (sel.selectRoot prefer).Does s (sel.standing s.memo) s.files
        (sel.standing s.memo).toOption [] := by
  have hoffers := sel.does_offersRemovable prefer s
  have hcandidates (journal : List Event) := sel.does_candidates ⟨s.files, s.memo, journal⟩
  unfold selectRoot preferred
  rcases ho : sel.offers prefer with e | _ | _ <;> rw [ho] at hoffers <;> dsimp only
  · exact hoffers.bind_error
  · exact hoffers.bind fun journal => sel.does_defaultRoot ⟨s.files, s.memo, journal⟩
  cases hr : sel.platform.externalRoots s.files with
  | error e =>
    simp only [hr] at hcandidates
    exact hoffers.bind fun journal => (hcandidates journal).bind_error
  | ok roots =>
    simp only [hr] at hcandidates
    cases hhead : (sel.ordered roots).head? with
    | some site =>
      simp only [Except.map, hhead]
      refine hoffers.bind fun journal => ?_
      refine (hcandidates journal).bind fun journal => ?_
      rw [hhead]
      exact (Does.note _ _ _ _).bind fun journal => .pure site ⟨s.files, s.memo, journal⟩
    | none =>
      simp only [Except.map, hhead]
      refine hoffers.bind fun journal => ?_
      refine (hcandidates journal).bind fun journal => ?_
      rw [hhead]
      exact (Does.note _ _ _ _).bind fun journal =>
        sel.does_defaultRoot ⟨s.files, s.memo, journal⟩

end Selector

/-! ## Choices -/

/-- What a choice of a root comes to: the root, the memo that is left behind, and the paths that
were checked. -/
structure Choice where
  root : Except Failure Site
  memo : Option Site
  checked : List Path

/-- How the standing default root is settled on: each rule is one way. A root that may not be
written to is forgotten. -/
inductive Settles (fs : FileSystem) : Except Failure Site → Choice → Prop
  | missing (e) : Settles fs (.error e) ⟨.error e, none, []⟩
  | unprobed {site e} : fs.canWrite site.path = .error e →
      Settles fs (.ok site) ⟨.error e, some site, [site.path]⟩
  | writable {site} : fs.canWrite site.path = .ok true →
      Settles fs (.ok site) ⟨.ok site, some site, [site.path]⟩
  | refused {site} : fs.canWrite site.path = .ok false →
      Settles fs (.ok site) ⟨.error (.notWritable site.path), none, [site.path]⟩

/-- How a writable root is chosen: each rule is one way. The default root is settled on only where
no removable root is preferred, or the preferred one may not be written to. -/
inductive Chooses (sel : Selector) (prefer : Bool) (fs : FileSystem) (memo : Option Site) :
    Choice → Prop
  | unlisted {e} : sel.preferred fs prefer = .error e →
      Chooses sel prefer fs memo ⟨.error e, memo, []⟩
  | unprobed {site e} : sel.preferred fs prefer = .ok (some site) →
      fs.canWrite site.path = .error e →
      Chooses sel prefer fs memo ⟨.error e, memo, [site.path]⟩
  | removable {site} : sel.preferred fs prefer = .ok (some site) →
      fs.canWrite site.path = .ok true →
      Chooses sel prefer fs memo ⟨.ok site, memo, [site.path]⟩
  | fallback {tried c} : sel.preferred fs prefer = .ok tried →
      (∀ site ∈ tried, fs.canWrite site.path = .ok false) → Settles fs (sel.standing memo) c →
      Chooses sel prefer fs memo { c with checked := tried.toList.map (·.path) ++ c.checked }

theorem exists_settles (fs : FileSystem) (standing : Except Failure Site) :
    ∃ c, Settles fs standing c := by
  cases standing with
  | error e => exact ⟨_, .missing e⟩
  | ok site =>
    rcases hw : fs.canWrite site.path with e | _ | _
    · exact ⟨_, .unprobed hw⟩
    · exact ⟨_, .refused hw⟩
    · exact ⟨_, .writable hw⟩

theorem exists_chooses (sel : Selector) (prefer : Bool) (fs : FileSystem) (memo : Option Site) :
    ∃ c, Chooses sel prefer fs memo c := by
  obtain ⟨c, hc⟩ := exists_settles fs (sel.standing memo)
  rcases hp : sel.preferred fs prefer with e | _ | site
  · exact ⟨_, .unlisted hp⟩
  · exact ⟨_, .fallback hp (by simp) hc⟩
  · rcases hw : fs.canWrite site.path with e | _ | _
    · exact ⟨_, .unprobed hp hw⟩
    · exact ⟨_, .fallback hp (by simpa using hw) hc⟩
    · exact ⟨_, .removable hp hw⟩

section

variable {fs : FileSystem} {standing : Except Failure Site} {c : Choice} {site : Site}

theorem Settles.standing_of_root (h : Settles fs standing c) (hroot : c.root = .ok site) :
    standing = .ok site ∧ fs.canWrite site.path = .ok true := by
  cases h with
  | missing | unprobed | refused => contradiction
  | writable hw =>
    obtain rfl := Except.ok.inj hroot
    exact ⟨rfl, hw⟩

theorem Settles.root_of_canWrite (h : Settles fs (.ok site) c)
    (hw : fs.canWrite site.path = .ok true) : c.root = .ok site := by
  cases h with
  | unprobed hw' | refused hw' => simp [hw] at hw'
  | writable => rfl

theorem Settles.memo_of_root (h : Settles fs standing c) (hroot : c.root = .ok site) :
    c.memo = some site := by
  cases h with
  | missing | unprobed | refused => contradiction
  | writable => exact congrArg some (Except.ok.inj hroot)

theorem Settles.memo_of_refused (h : Settles fs (.ok site) c)
    (hw : fs.canWrite site.path = .ok false) : c.memo = none := by
  cases h with
  | unprobed hw' | writable hw' => simp [hw] at hw'
  | refused => rfl

/-- A root that is chosen may be written to. -/
theorem Chooses.canWrite_of_root {sel : Selector} {prefer : Bool} {memo : Option Site}
    (h : Chooses sel prefer fs memo c) (hroot : c.root = .ok site) :
    fs.canWrite site.path = .ok true := by
  cases h with
  | unlisted | unprobed => contradiction
  | removable _ hw =>
    obtain rfl := Except.ok.inj hroot
    exact hw
  | fallback _ _ hsettles => exact (hsettles.standing_of_root hroot).2

/-- Without a preference the root is the standing default root. -/
theorem Chooses.standing_of_root {sel : Selector} {memo : Option Site}
    (h : Chooses sel false fs memo c) (hroot : c.root = .ok site) :
    sel.standing memo = .ok site ∧ fs.canWrite site.path = .ok true := by
  cases h with
  | unlisted hp | unprobed hp | removable hp => simp at hp
  | fallback _ _ hsettles => exact hsettles.standing_of_root hroot

/-- Without a preference the root that is chosen is remembered. -/
theorem Chooses.memo_of_root {sel : Selector} {memo : Option Site}
    (h : Chooses sel false fs memo c) (hroot : c.root = .ok site) : c.memo = some site := by
  cases h with
  | unlisted hp | unprobed hp | removable hp => simp at hp
  | fallback _ _ hsettles => exact hsettles.memo_of_root hroot

end

/-! ## Choices as they are made -/

namespace Resolver

/-- The default root, checked. -/
def checkedDefault (r : Resolver) : Action Site := do
  let site ← r.selector.defaultRoot
  requireWritable site.path true
  return site

variable {s : Session} {c : Choice}

/-- A root that is remembered is checked, and settled on or forgotten. -/
theorem does_check {site : Site} (hmemo : s.memo = some site) (h : Settles s.files (.ok site) c) :
    (do requireWritable site.path true; return site : Action Site).Does s c.root s.files c.memo
      c.checked := by
  have hcheck := Does.canWrite site.path s
  rw [hmemo] at hcheck
  unfold requireWritable
  cases h with
  | unprobed hw =>
    rw [hw] at hcheck
    exact hcheck.bind_error.bind_error
  | writable hw =>
    rw [hw] at hcheck
    exact (hcheck.bind_unchecked fun journal => .pure () _).bind_unchecked fun journal =>
      .pure site _
  | refused hw =>
    rw [hw] at hcheck
    refine Does.bind_error (hcheck.bind_unchecked fun journal => ?_)
    refine (Selector.does_invalidate _).bind_unchecked fun journal => ?_
    exact (Does.note _ _ _ _).bind_unchecked fun journal => .fail _ ⟨s.files, none, journal⟩

theorem does_checkedDefault (r : Resolver) (h : Settles s.files (r.selector.standing s.memo) c) :
    r.checkedDefault.Does s c.root s.files c.memo c.checked := by
  have hdefault := r.selector.does_defaultRoot s
  unfold checkedDefault
  cases hs : r.selector.standing s.memo with
  | error e =>
    rw [hs] at hdefault h
    cases h
    exact hdefault.bind_error
  | ok site =>
    rw [hs] at hdefault h
    exact hdefault.bind fun journal => does_check (s := ⟨s.files, some site, journal⟩) rfl h

/-- Behind a root that was refused the default root is settled on, be it another one or the same. -/
theorem does_fallback (r : Resolver) (site : Site)
    (h : Settles s.files (r.selector.standing s.memo) c) :
    (do
      let default ← r.selector.defaultRoot
      if site ≠ default then
        Action.note .warning .resolver ("Removable storage " ++ site.path.text ++
          " is not writable, falling back to " ++ default.path.text)
        requireWritable default.path true
        return default
      requireWritable site.path true
      return site : Action Site).Does s c.root s.files c.memo c.checked := by
  have hdefault := r.selector.does_defaultRoot s
  cases hs : r.selector.standing s.memo with
  | error e =>
    rw [hs] at hdefault h
    cases h
    exact hdefault.bind_error
  | ok default =>
    rw [hs] at hdefault h
    refine hdefault.bind fun journal => ?_
    have hcheck (journal : List Event) :=
      does_check (s := ⟨s.files, some default, journal⟩) rfl h
    by_cases hsite : site = default
    · simp only [hsite, ne_eq, not_true_eq_false, if_false]
      exact hcheck journal
    · simp only [hsite, ne_eq, not_false_eq_true, if_true]
      exact (Does.note _ _ _ _).bind fun journal => hcheck journal

theorem does_writableRoot (r : Resolver) {prefer : Bool}
    (h : Chooses r.selector prefer s.files s.memo c) :
    (r.writableRoot prefer).Does s c.root s.files c.memo c.checked := by
  have hselect := r.selector.does_selectRoot prefer s
  unfold writableRoot
  cases h with
  | unlisted hp =>
    rw [hp] at hselect
    exact hselect.bind_error
  | @unprobed site e hp hw =>
    rw [hp] at hselect
    have hcheck (journal : List Event) := Does.canWrite site.path ⟨s.files, s.memo, journal⟩
    simp only [hw] at hcheck
    exact hselect.bind fun journal => (hcheck journal).bind_error
  | @removable site hp hw =>
    rw [hp] at hselect
    have hcheck (journal : List Event) := Does.canWrite site.path ⟨s.files, s.memo, journal⟩
    simp only [hw] at hcheck
    exact hselect.bind fun journal => (hcheck journal).bind_unchecked fun journal => .pure site _
  | @fallback tried c hp htried hsettles =>
    rw [hp] at hselect
    cases tried with
    | some site =>
      have hcheck (journal : List Event) := Does.canWrite site.path ⟨s.files, s.memo, journal⟩
      simp only [htried site rfl] at hcheck
      refine hselect.bind fun journal => ?_
      exact (hcheck journal).bind fun journal =>
        r.does_fallback site (s := ⟨s.files, s.memo, journal⟩) hsettles
    | none =>
      -- The default root has been selected. It is checked once more where the first check fails.
      cases hs : r.selector.standing s.memo with
      | error e =>
        rw [hs] at hselect hsettles
        cases hsettles
        exact hselect.bind_error
      | ok default =>
        rw [hs] at hselect hsettles
        have hcheck (journal : List Event) :=
          Does.canWrite default.path ⟨s.files, some default, journal⟩
        cases hsettles with
        | unprobed hw =>
          simp only [hw] at hcheck
          exact hselect.bind fun journal => (hcheck journal).bind_error
        | writable hw =>
          simp only [hw] at hcheck
          exact hselect.bind fun journal =>
            (hcheck journal).bind_unchecked fun journal => .pure default _
        | refused hw =>
          simp only [hw] at hcheck
          have hagain (journal : List Event) :=
            r.does_fallback default (s := ⟨s.files, some default, journal⟩) (.refused hw)
          refine (hselect.bind fun journal => (hcheck journal).bind hagain).mono ?_
          simp

end Resolver

end BackupLocator
