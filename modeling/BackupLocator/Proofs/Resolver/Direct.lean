import BackupLocator.Proofs.Platform
import BackupLocator.Proofs.Resolver.Ending
import BackupLocator.Proofs.Resolver.Selection

/-!
# Operations on plain paths

Where storage is reached by plain paths, the plan of an operation is the choice of a storage root,
and the place of the directory on that root. So what such an operation does to the memo, and what it
checks, is what the choice does.
-/

namespace BackupLocator

open BackupLocator.Action

namespace Operation

/-- An operation finds its directory on a storage root that is reached by plain paths. -/
def IsDirect (r : Resolver) (op : Operation) (category : Option Category) : Prop :=
  op.branch? r = some (category, .legacy)

/-- An operation finds its directory by a handle. -/
def IsScoped (r : Resolver) (op : Operation) : Prop :=
  ∃ category, op.branch? r = some (category, .scoped)

/-- Whether an operation prefers a removable root. Backups in the older way never do. -/
def prefers : Operation → Bool
  | .full _ prefer => prefer
  | .plaintext _ prefer => prefer
  | .legacyRoot prefer => prefer
  | .directory request _ prefer => request.category? ≠ some .legacy && prefer
  | .selectRoot prefer => prefer
  | _ => false

end Operation

namespace Resolver

/-- The directory of a category, or the application root, on a storage root that is reached by plain
paths. -/
def directoryOn (r : Resolver) (category : Option Category) (site : Site) :
    Except Failure ResolvedDirectory :=
  match category with
  | none => .ok ⟨site, Layout.legacyRoot site.path, none, .legacy⟩
  | some category => (Layout.backupPath r.package (Layout.legacyRoot site.path) category).map
      fun path => ⟨site, path, some category, .legacy⟩

variable (r : Resolver) {s : Session} {c : Choice}

theorem ofExcept_directoryOn (category : Category) (site : Site) :
    Action.ofExcept (r.directoryOn (some category) site) = (do
      let path ← Action.ofExcept
        (Layout.backupPath r.package (Layout.legacyRoot site.path) category)
      return ⟨site, path, some category, .legacy⟩) := by
  simp only [directoryOn]
  cases Layout.backupPath r.package (Layout.legacyRoot site.path) category <;> rfl

theorem legacyPlan_eq : r.legacyPlan = (do
    let site ← r.checkedDefault
    Action.ofExcept (r.directoryOn (some .legacy) site)) := by
  simp only [legacyPlan, checkedDefault, ofExcept_directoryOn, bind_assoc, pure_bind]

theorem categoryPlan_of_legacy (h : StorageModel.ofVersion r.platform.version = .ok .legacy)
    (category : Category) (handle : Option String) (prefer : Bool) :
    r.categoryPlan category handle prefer = (do
      Action.note .debug .resolver
        s!"Resolving {category.directory} using {StorageModel.legacy.name} storage"
      noteIgnored handle
      let site ← r.writableRoot prefer
      Action.ofExcept (r.directoryOn (some category) site)) := by
  have hmodel : Action.ofExcept (StorageModel.ofVersion r.platform.version) =
      pure StorageModel.legacy := by
    rw [h]
    rfl
  simp only [categoryPlan, hmodel, rootOf, ofExcept_directoryOn, bind_assoc, pure_bind]

/-! ## Plans -/

variable {r}

theorem does_noteIgnored (handle : Option String) (s : Session) :
    (noteIgnored handle).Does s (.ok ()) s.files s.memo [] := by
  unfold noteIgnored
  split
  · exact .note _ _ _ s
  · exact .pure () s

/-- Backups in the older way go by the default root, as if nothing were preferred. -/
theorem does_checkedDefault_of_chooses (h : Chooses r.selector false s.files s.memo c) :
    r.checkedDefault.Does s c.root s.files c.memo c.checked := by
  cases h with
  | unlisted hp | unprobed hp | removable hp => simp at hp
  | fallback hp _ hsettles =>
    obtain rfl := Except.ok.inj hp
    exact r.does_checkedDefault hsettles

/-- The categories of today are found by the storage model of the version. -/
theorem ofVersion_of_modelOf? {category : Category} {model : StorageModel}
    (hcategory : category ≠ .legacy) (h : r.modelOf? category = some model) :
    StorageModel.ofVersion r.platform.version = .ok model := by
  have htoOption : (StorageModel.ofVersion r.platform.version).toOption = some model := by
    cases category with
    | legacy => exact absurd rfl hcategory
    | full | plaintext => exact h
  cases hv : StorageModel.ofVersion r.platform.version with
  | error e => simp [hv, Except.toOption] at htoOption
  | ok model' => simpa [hv, Except.toOption] using htoOption

theorem planTo_eq {category : Category} (hcategory : category ≠ .legacy)
    (handle : Option String) (prefer : Bool) :
    r.planTo category handle prefer = r.categoryPlan category handle prefer := by
  cases category with
  | legacy => exact absurd rfl hcategory
  | full | plaintext => rfl

theorem does_planTo {category : Category} (hmodel : r.modelOf? category = some .legacy)
    {prefer : Bool} (hprefer : category = .legacy → prefer = false) (handle : Option String)
    (h : Chooses r.selector prefer s.files s.memo c) :
    (r.planTo category handle prefer).Does s (c.root.bind (r.directoryOn (some category)))
      s.files c.memo c.checked := by
  by_cases hcategory : category = .legacy
  · subst hcategory
    obtain rfl := hprefer rfl
    unfold planTo
    rw [legacyPlan_eq]
    exact (does_checkedDefault_of_chooses h).bind_ofExcept _
  · rw [planTo_eq hcategory, categoryPlan_of_legacy r (ofVersion_of_modelOf? hcategory hmodel)]
    refine (Does.note _ _ _ s).bind fun journal => ?_
    refine (does_noteIgnored handle _).bind fun journal => ?_
    exact (r.does_writableRoot (s := ⟨s.files, s.memo, journal⟩) h).bind_ofExcept _

theorem branchTo?_eq_some_iff {category : Category} {branch : Branch} :
    r.branchTo? category = some branch ↔
      ∃ model, r.modelOf? category = some model ∧ branch = (some category, model) := by
  rw [branchTo?, Option.map_eq_some_iff]
  exact exists_congr fun model => and_congr_right fun _ => eq_comm

/-- The plan for a request is the plan to the category that it stands for. -/
theorem requestPlan_of_category {request : CategoryRequest} {category : Category}
    (h : request.category? = some category) (handle : Option String) (prefer : Bool) :
    r.requestPlan request handle prefer = r.planTo category handle prefer := by
  unfold requestPlan
  cases request with
  | tag tag =>
    cases htag : Category.ofTag tag with
    | error e => simp [CategoryRequest.category?, htag, Except.toOption] at h
    | ok category' =>
      obtain rfl : category' = category := by
        simpa [CategoryRequest.category?, htag, Except.toOption] using h
      dsimp only
      rw [htag]
      rfl
  | category category' =>
    obtain rfl := Option.some.inj h
    rfl
  | unknown => simp [CategoryRequest.category?] at h

end Resolver

namespace Operation

variable {r : Resolver} {op : Operation} {s : Session} {c : Choice}

/-- An operation that is to find a category goes by the plan to that category. -/
theorem plan?_of_branch {category : Category} {model : StorageModel}
    (h : op.branch? r = some (some category, model)) :
    op.plan? r = some (r.planTo category op.handle? op.prefers) ∧
      r.modelOf? category = some model ∧ (category = .legacy → op.prefers = false) := by
  have hbranch {category' : Category} (h : r.branchTo? category' = some (some category, model)) :
      category' = category ∧ r.modelOf? category = some model := by
    obtain ⟨model', hmodel, heq⟩ := Resolver.branchTo?_eq_some_iff.mp h
    obtain ⟨rfl, rfl⟩ : category = category' ∧ model = model' := by simpa using heq
    exact ⟨rfl, hmodel⟩
  cases op with
  | full handle prefer | plaintext handle prefer =>
    obtain ⟨rfl, hmodel⟩ := hbranch h
    exact ⟨rfl, hmodel, by simp⟩
  | legacy =>
    obtain ⟨rfl, hmodel⟩ := hbranch h
    exact ⟨rfl, hmodel, fun _ => rfl⟩
  | directory request handle prefer =>
    obtain ⟨category', hcategory, hto⟩ := Option.bind_eq_some_iff.mp h
    obtain ⟨rfl, hmodel⟩ := hbranch hto
    refine ⟨?_, hmodel, ?_⟩
    · rw [plan?, Resolver.requestPlan_of_category hcategory]
      cases category' with
      | legacy => rfl
      | full | plaintext => simp [prefers, handle?, hcategory]
    · rintro rfl
      simp [prefers, hcategory]
  | legacyRoot prefer => simp [branch?] at h
  | canWriteDefault | legacyReadCandidates | selectRoot | defaultRoot | removableCandidates
  | invalidate => simp [branch?] at h

/-- Only the application root is found without a category, on a storage root. -/
theorem plan?_of_no_category {model : StorageModel} (h : op.branch? r = some (none, model)) :
    op.plan? r = some (r.legacyRootPlan op.prefers) ∧ model = .legacy := by
  have hto (category : Category) : r.branchTo? category ≠ some (none, model) := by
    intro hbranch
    obtain ⟨model', -, heq⟩ := Resolver.branchTo?_eq_some_iff.mp hbranch
    simp at heq
  cases op with
  | legacyRoot prefer =>
    obtain rfl : StorageModel.legacy = model := by simpa [branch?] using h
    exact ⟨rfl, rfl⟩
  | full | plaintext | legacy => exact absurd h (hto _)
  | directory request handle prefer =>
    obtain ⟨category, -, hbranch⟩ := Option.bind_eq_some_iff.mp h
    exact absurd hbranch (hto category)
  | canWriteDefault | legacyReadCandidates | selectRoot | defaultRoot | removableCandidates
  | invalidate => simp [branch?] at h

theorem does_plan {category : Option Category} (hop : op.IsDirect r category)
    (h : Chooses r.selector op.prefers s.files s.memo c) :
    ∃ plan, op.plan? r = some plan ∧
      plan.Does s (c.root.bind (r.directoryOn category)) s.files c.memo c.checked := by
  cases category with
  | some category =>
    obtain ⟨hplan, hmodel, hprefer⟩ := plan?_of_branch hop
    exact ⟨_, hplan, Resolver.does_planTo hmodel hprefer op.handle? h⟩
  | none =>
    obtain ⟨hplan, -⟩ := plan?_of_no_category hop
    exact ⟨_, hplan, (r.does_writableRoot h).bind_ofExcept (r.directoryOn none)⟩

/-! ## Whole operations -/

/-- The files when a plan has come to something: its directory is made. -/
def filesAfter (fs : FileSystem) : Except Failure ResolvedDirectory → FileSystem
  | .ok d => (fs.makeDirectory d.path true true).2
  | .error _ => fs

/-- An operation gives the directory of its plan if that can be made. What it does to the memo, and
what it checks, is what its plan does. -/
theorem does_perform {plan : Action ResolvedDirectory} (hplan : op.plan? r = some plan)
    {outcome : Except Failure ResolvedDirectory} {memo : Option Site} {paths : List Path}
    (h : plan.Does s outcome s.files memo paths) :
    (op.perform r).Does s ((outcome.bind (Resolver.madeIn s.files)).map .directory)
      (filesAfter s.files outcome) memo paths := by
  rw [perform_of_plan hplan]
  cases outcome with
  | error e => exact h.bind_error.map _
  | ok d =>
    have hmaking (journal : List Event) := Resolver.does_establish d ⟨s.files, memo, journal⟩
    exact (h.bind_unchecked hmaking).map _

/-- An operation that gives a directory has settled on it. -/
theorem settled_of_success {d : ResolvedDirectory} {s' : Session}
    {outcome : Except Failure ResolvedDirectory} {files : FileSystem} {memo : Option Site}
    {paths : List Path} (h : (op.perform r).run s = (.ok (.directory d), s'))
    (hdoes : (op.perform r).Does s ((outcome.bind (Resolver.madeIn s.files)).map .directory) files
      memo paths) : outcome = .ok d ∧ s'.memo = memo := by
  have hresult := hdoes.result_eq
  have hmemo := hdoes.memo_eq
  rw [h] at hresult hmemo
  obtain ⟨d', hmade, heq⟩ := Failure.map_eq_ok_iff.mp hresult.symm
  obtain ⟨d'', houtcome, hmade⟩ := Failure.bind_eq_ok_iff.mp hmade
  obtain rfl := (Resolver.madeIn_eq_ok_iff.mp hmade).1
  obtain rfl := Answer.directory.inj heq
  exact ⟨houtcome, hmemo⟩

/-- On plain paths an operation gives the directory on the root that is chosen, if that can be
made. -/
theorem IsDirect.does {category : Option Category} (hop : op.IsDirect r category)
    (h : Chooses r.selector op.prefers s.files s.memo c) :
    (op.perform r).Does s
      (((c.root.bind (r.directoryOn category)).bind (Resolver.madeIn s.files)).map .directory)
      (filesAfter s.files (c.root.bind (r.directoryOn category))) c.memo c.checked := by
  obtain ⟨plan, hplan, hplanned⟩ := does_plan hop h
  exact does_perform hplan hplanned

end Operation

/-! ## Whether the default storage may be written to -/

/-- What a choice says about storage: it is available, or it is not, or that cannot be told. -/
def Choice.verdict (c : Choice) : Except Failure Bool :=
  match c.root with
  | .ok _ => .ok true
  | .error e => if e.isUnavailable then .ok false else .error e

/-- The default storage may be written to as settling on the default root tells. -/
theorem Resolver.does_canWriteDefault {r : Resolver} {s : Session} {c : Choice}
    (h : Settles s.files (r.selector.standing s.memo) c) :
    r.canWriteDefault.Does s c.verdict s.files c.memo c.checked := by
  have hdefault := (r.selector.does_defaultRoot s).attempt
  rw [canWriteDefault_eq]
  cases hs : r.selector.standing s.memo with
  | error e =>
    rw [hs] at hdefault h
    cases h with
    | missing =>
      refine hdefault.bind fun journal => ?_
      dsimp only [Choice.verdict]
      split
      · exact .pure false ⟨s.files, none, journal⟩
      · exact .fail e ⟨s.files, none, journal⟩
  | ok site =>
    rw [hs] at hdefault h
    have hcheck (journal : List Event) := Does.canWrite site.path ⟨s.files, some site, journal⟩
    refine hdefault.bind fun journal => ?_
    cases h with
    | @unprobed _ e hw =>
      have hverdict : (⟨.error e, some site, [site.path]⟩ : Choice).verdict = .error e :=
        if_neg (by simp [s.files.canWrite_available _ _ hw])
      simp only [hw] at hcheck
      rw [hverdict]
      exact (hcheck journal).bind_error
    | writable hw =>
      simp only [hw] at hcheck
      exact (hcheck journal).bind_unchecked fun journal => .pure true ⟨s.files, some site, journal⟩
    | refused hw =>
      simp only [hw] at hcheck
      refine (hcheck journal).bind_unchecked fun journal => ?_
      exact (Selector.does_invalidate _).bind_unchecked fun journal =>
        .pure false ⟨s.files, none, journal⟩

theorem Operation.does_canWriteDefault {r : Resolver} {s : Session} {c : Choice}
    (h : Settles s.files (r.selector.standing s.memo) c) :
    (canWriteDefault.perform r).Does s (c.verdict.map .flag) s.files c.memo c.checked := by
  have hdoes := (Resolver.does_canWriteDefault h).map Answer.flag
  rwa [map_eq_pure_bind] at hdoes

end BackupLocator
