import BackupLocator.Proofs.FileSystem.Extension
import BackupLocator.Proofs.Resolver.Parallel
import BackupLocator.Proofs.Selector

/-!
# What a plan has found

A plan leaves the file system alone. Where it succeeds, the medium of the directory that it has
found is a directory that may be written to, and the directory lies below the medium by the names
that the layout puts there.
-/

namespace BackupLocator

open BackupLocator.Action

/-! ## Steps that leave the file system alone -/

/-- Whether a session has a certain file system. -/
def Session.Has (fs : FileSystem) (s : Session) : Prop := s.files = fs

theorem quietSteps_has (fs : FileSystem) : QuietSteps (Beside (Session.Has fs)) :=
  .of_recorded fun _ _ _ h => h

theorem sameHandles_has (fs : FileSystem) (r : Resolver) :
    SameHandles (Beside (Session.Has fs)) r r := .of_recorded (fun _ _ _ h => h) r

theorem commonSteps_has (fs : FileSystem) : CommonSteps (Beside (Session.Has fs)) where
  note := (quietSteps_has fs).note
  invalidate := alike_beside_iff.mpr fun s h => by
    obtain ⟨journal, hrun⟩ := Selector.run_invalidate s
    rwa [hrun]
  isDirectory _ := alike_beside_iff.mpr fun _ h => h
  canWrite := (quietSteps_has fs).canWrite

theorem sameAnswers_has (fs : FileSystem) (r : Resolver) :
    SameAnswers (Beside (Session.Has fs)) r r where
  package := rfl
  sorted := rfl
  version := rfl
  defaultRoot := alike_beside_iff.mpr fun s h => by
    cases hm : s.memo with
    | some site => rwa [r.selector.run_defaultRoot_of_remembered hm]
    | none =>
      obtain ⟨journal, hrun⟩ := r.selector.run_defaultRoot_of_forgotten hm
      rwa [hrun]
  externalRoots := alike_beside_iff.mpr fun _ h => h
  description := (sameHandles_has fs r).description
  handlePath := (sameHandles_has fs r).handlePath

/-! ## What a step finds -/

/-- On a certain file system an action leaves that as it is, and gives only values with a property.
-/
def Finds {α : Type} (fs : FileSystem) (x : Action α) (Q : α → Prop) : Prop :=
  ∀ s, s.files = fs → (x.run s).2.files = fs ∧ ∀ a, (x.run s).1 = .ok a → Q a

namespace Finds

variable {α β : Type} {fs : FileSystem}

theorem pure {Q : α → Prop} {a : α} (h : Q a) : Finds fs (pure a) Q := by
  intro s hs
  refine ⟨hs, ?_⟩
  rintro _ ⟨⟩
  exact h

theorem fail {Q : α → Prop} (e : Failure) : Finds fs (fail e) Q := fun _ hs => ⟨hs, by simp⟩

theorem ofExcept (r : Except Failure α) : Finds fs (ofExcept r) fun a => r = .ok a := by
  intro s hs
  rw [run_ofExcept]
  exact ⟨hs, fun a h => h⟩

theorem bind {x : Action α} {f : α → Action β} {P : α → Prop} {Q : β → Prop} (hx : Finds fs x P)
    (hf : ∀ a, P a → Finds fs (f a) Q) : Finds fs (x >>= f) Q := by
  intro s hs
  obtain ⟨hfiles, hP⟩ := hx s hs
  rw [run_bind]
  rcases hr : x.run s with ⟨result, s'⟩
  rw [hr] at hfiles hP
  cases result with
  | ok a => exact hf a (hP a rfl) s' hfiles
  | error e => exact ⟨hfiles, by simp⟩

theorem attempt {x : Action α} {Q : α → Prop} (hx : Finds fs x Q) :
    Finds fs x.attempt fun outcome => ∀ a, outcome = .ok a → Q a := by
  intro s hs
  obtain ⟨hfiles, hQ⟩ := hx s hs
  refine ⟨hfiles, ?_⟩
  rintro _ ⟨⟩
  exact hQ

theorem of_alike {x : Action α} (h : Alike (Beside (Session.Has fs)) x x) :
    Finds fs x fun _ => True :=
  fun s hs => ⟨alike_beside_iff.mp h s hs, fun _ _ => trivial⟩

end Finds

variable (fs : FileSystem) (r : Resolver)

theorem finds_note (level : Level) (component : Component) (text : String) :
    Finds fs (note level component text) fun _ => True :=
  .of_alike ((commonSteps_has fs).note level component text)

theorem finds_canWrite (path : Path) :
    Finds fs (Action.canWrite path) fun writable => fs.canWrite path = .ok writable := by
  rintro s rfl
  obtain ⟨journal, hrun⟩ := run_canWrite path s
  rw [hrun]
  exact ⟨rfl, fun _ h => h⟩

theorem finds_askHandlePath (p : Platform) (handle : String) :
    Finds fs (askHandlePath p handle) fun path => p.handlePath fs handle = .ok path := by
  rintro s rfl
  obtain ⟨journal, hrun⟩ := run_askHandlePath p handle s
  rw [hrun]
  exact ⟨rfl, fun _ h => h⟩

/-! ## What a resolver finds -/

/-- The part of a storage root that has to be writable. -/
def Layout.mediumOf : StorageModel → Path → Path
  | .legacy, path => path
  | .scoped, path => handleRoot path

/-- The application root on a storage root. -/
def Layout.rootOn : StorageModel → Path → Path
  | .legacy, path => legacyRoot path
  | .scoped, path => handleRoot path

/-- The medium of a directory, the part of its storage root that has to be writable. -/
def ResolvedDirectory.medium (d : ResolvedDirectory) : Path :=
  Layout.mediumOf d.model d.site.path

namespace Resolver

theorem finds_requireWritable (path : Path) (forget : Bool) :
    Finds fs (requireWritable path forget) fun _ => fs.canWrite path = .ok true := by
  unfold requireWritable
  refine .bind (finds_canWrite fs path) fun writable hw => ?_
  cases writable with
  | true => exact .pure hw
  | false =>
    have hend : Finds fs (do
        Action.note .error .resolver ("Storage at " ++ path.text ++ " is not writable")
        Action.fail (.notWritable path) : Action Unit) fun _ => fs.canWrite path = .ok true :=
      .bind (finds_note fs _ _ _) fun _ _ => .fail _
    cases forget with
    | true => exact .bind (.of_alike (commonSteps_has fs).invalidate) fun _ _ => hend
    | false => exact hend

theorem finds_writableRoot (prefer : Bool) :
    Finds fs (r.writableRoot prefer) fun site => fs.canWrite site.path = .ok true := by
  have common := commonSteps_has fs
  have same := sameAnswers_has fs r
  unfold writableRoot
  refine .bind (.of_alike (common.selectRoot same prefer)) fun site _ => ?_
  refine .bind (finds_canWrite fs site.path) fun writable hw => ?_
  cases writable with
  | true => exact .pure hw
  | false =>
    -- The root that was chosen is refused. Whichever is tried now is checked before it is given.
    refine .bind (.of_alike same.defaultRoot) fun default _ => ?_
    have hchecked (site : Site) :
        Finds fs (do requireWritable site.path true; return site) fun site =>
          fs.canWrite site.path = .ok true :=
      .bind (finds_requireWritable fs site.path true) fun _ hw => .pure hw
    by_cases hsite : site = default
    · simpa only [hsite, ne_eq, not_true_eq_false, if_false] using hchecked default
    · simp only [hsite, ne_eq, not_false_eq_true, if_true]
      exact .bind (finds_note fs _ _ _) fun _ _ => hchecked default

theorem finds_handleDirectory (handle : String) :
    Finds fs (r.handleDirectory handle) fun path => r.platform.handlePath fs handle = .ok path := by
  rw [handleDirectory_eq]
  refine .bind (finds_askHandlePath fs r.platform handle).attempt fun outcome hout => ?_
  cases outcome with
  | ok path => exact .pure (hout path rfl)
  | error e =>
    have hnote := (commonSteps_has fs).quiet.noteHandleFailure handle e
    exact .bind (.of_alike hnote) fun _ _ => .fail _

/-- The path of a handle is the one that the platform has for it. -/
def IsPathOf (handle : Option String) (path : Path) : Prop :=
  ∃ text, handle = some text ∧ text ≠ "" ∧ r.platform.handlePath fs text = .ok path

theorem finds_handleSite (handle : Option String) :
    Finds fs (r.handleSite handle) fun site => IsPathOf fs r handle site.path := by
  unfold handleSite
  cases hf : handle.filter (· ≠ "") with
  | none => exact .bind (finds_note fs _ _ _) fun _ _ => .fail _
  | some text =>
    obtain ⟨hh, hne⟩ := Option.filter_eq_some_iff.mp hf
    refine .bind (finds_handleDirectory fs r text) fun path hpath => ?_
    refine .bind (.ofExcept _) fun volume _ => ?_
    refine .bind (.of_alike ((sameAnswers_has fs r).description volume)) fun _ _ => ?_
    exact .pure ⟨text, hh, by simpa using hne, hpath⟩

theorem finds_rootOf (model : StorageModel) (handle : Option String) (prefer : Bool) :
    Finds fs (r.rootOf model handle prefer) fun (site, root) =>
      root = Layout.rootOn model site.path ∧
        fs.canWrite (Layout.mediumOf model site.path) = .ok true ∧
        (model = .scoped → IsPathOf fs r handle site.path) := by
  unfold rootOf
  match model with
  | .legacy =>
    refine .bind (.of_alike ((commonSteps_has fs).noteIgnored handle)) fun _ _ => ?_
    exact .bind (finds_writableRoot fs r prefer) fun site hw => .pure ⟨rfl, hw, by simp⟩
  | .scoped =>
    refine .bind (finds_handleSite fs r handle) fun site hpath => ?_
    exact .bind (finds_requireWritable fs _ false) fun _ hw => .pure ⟨rfl, hw, fun _ => hpath⟩

end Resolver

/-! ## Branches -/

/-- The storage model that a category is found by, if the version can be told. -/
def Resolver.modelOf? : Category → Option StorageModel
  | .legacy => some .legacy
  | .full | .plaintext => (StorageModel.ofVersion r.platform.version).toOption

/-- The category that a request stands for, if any. -/
def CategoryRequest.category? : CategoryRequest → Option Category
  | .tag name => (Category.ofTag name).toOption
  | .category c => some c
  | .unknown => none

/-- The category of a branch, none for the application root, and its storage model. -/
abbrev Branch := Option Category × StorageModel

/-- The branch that leads to a category. -/
def Resolver.branchTo? (category : Category) : Option Branch :=
  (r.modelOf? category).map fun model => (some category, model)

namespace Operation

/-- The branch that an operation takes, if it gives a directory. -/
def branch? : Operation → Option Branch
  | .full .. => r.branchTo? .full
  | .plaintext .. => r.branchTo? .plaintext
  | .legacy => r.branchTo? .legacy
  | .legacyRoot _ => some (none, .legacy)
  | .directory request .. => request.category?.bind r.branchTo?
  | _ => none

/-- The handle that an operation is given. -/
def handle? : Operation → Option String
  | .full handle _ => handle
  | .plaintext handle _ => handle
  | .directory _ handle _ => handle
  | _ => none

end Operation

/-! ## What a plan finds -/

/-- The names that the layout puts below a medium, for a category or for the application root. -/
def Layout.namesBelow (package : PackageId) : Branch → Except Failure (List String)
  | (none, _) => .ok [applicationName]
  | (some category, .legacy) => package.variant.map fun variant =>
    applicationName :: category.directory :: variant.toList
  | (some category, .scoped) => package.variant.map fun variant =>
    category.directory :: variant.toList

/-- The branch by which a directory was found. -/
def ResolvedDirectory.branch (d : ResolvedDirectory) : Branch := (d.category, d.model)

/-- A directory lies where the layout has it: below its medium, by the names for its branch. -/
def ResolvedDirectory.IsLaidOut (package : PackageId) (d : ResolvedDirectory) : Prop :=
  ∃ names, Layout.namesBelow package d.branch = .ok names ∧
    d.path = names.foldl Path.child d.medium

/-- What is true of a directory that was found by a branch, with a handle. -/
structure Found (branch : Option Branch) (handle : Option String) (d : ResolvedDirectory) :
    Prop where
  branch : branch = some d.branch
  writable : fs.canWrite d.medium = .ok true
  laidOut : d.IsLaidOut r.package
  handle : d.model = .scoped → Resolver.IsPathOf fs r handle d.site.path

namespace Resolver

theorem isLaidOut_of_backupPath {package : PackageId} {site : Site} {model : StorageModel}
    {category : Category} {path : Path}
    (h : Layout.backupPath package (Layout.rootOn model site.path) category = .ok path) :
    ResolvedDirectory.IsLaidOut package ⟨site, path, some category, model⟩ := by
  unfold Layout.backupPath Layout.withVariant at h
  cases hv : package.variant with
  | error e =>
    rw [hv] at h
    contradiction
  | ok variant =>
    rw [hv] at h
    obtain rfl := Except.ok.inj h
    cases model <;> cases variant <;>
      exact ⟨_, by simp only [Layout.namesBelow, ResolvedDirectory.branch, hv]; rfl, rfl⟩

theorem finds_categoryPlan {category : Category} (hc : category ≠ .legacy)
    (handle : Option String) (prefer : Bool) :
    Finds fs (r.categoryPlan category handle prefer)
      (Found fs r (r.branchTo? category) handle) := by
  unfold categoryPlan
  refine .bind (.ofExcept _) fun model hmodel => ?_
  refine .bind (finds_note fs _ _ _) fun _ _ => ?_
  refine .bind (finds_rootOf fs r model handle prefer) fun (site, root) ⟨hroot, hw, hpath⟩ => ?_
  subst hroot
  refine .bind (.ofExcept _) fun path hp => .pure ?_
  have hbranch : r.branchTo? category = some (some category, model) := by
    cases category with
    | legacy => exact absurd rfl hc
    | full | plaintext => simp only [branchTo?, modelOf?, hmodel]; rfl
  exact ⟨hbranch, hw, isLaidOut_of_backupPath hp, hpath⟩

theorem finds_legacyPlan (handle : Option String) :
    Finds fs r.legacyPlan (Found fs r (r.branchTo? .legacy) handle) := by
  unfold legacyPlan
  refine .bind (.of_alike (sameAnswers_has fs r).defaultRoot) fun site _ => ?_
  refine .bind (finds_requireWritable fs site.path true) fun _ hw => ?_
  refine .bind (.ofExcept _) fun path hp => .pure ?_
  have hlaid : ResolvedDirectory.IsLaidOut r.package ⟨site, path, some .legacy, .legacy⟩ :=
    isLaidOut_of_backupPath hp
  exact ⟨rfl, hw, hlaid, by simp⟩

theorem finds_legacyRootPlan (handle : Option String) (prefer : Bool) :
    Finds fs (r.legacyRootPlan prefer) (Found fs r (some (none, .legacy)) handle) := by
  unfold legacyRootPlan
  refine .bind (finds_writableRoot fs r prefer) fun site hw => .pure ?_
  have hlaid : ResolvedDirectory.IsLaidOut r.package
      ⟨site, Layout.legacyRoot site.path, none, .legacy⟩ := ⟨_, rfl, rfl⟩
  exact ⟨rfl, hw, hlaid, by simp⟩

theorem finds_planTo (category : Category) (handle : Option String) (prefer : Bool) :
    Finds fs (r.planTo category handle prefer) (Found fs r (r.branchTo? category) handle) := by
  cases category with
  | legacy => exact finds_legacyPlan fs r handle
  | full | plaintext => exact finds_categoryPlan fs r (by simp) handle prefer

theorem finds_requestPlan (request : CategoryRequest) (handle : Option String) (prefer : Bool) :
    Finds fs (r.requestPlan request handle prefer)
      (Found fs r (request.category?.bind r.branchTo?) handle) := by
  unfold requestPlan
  cases request with
  | tag tag =>
    refine .bind (.ofExcept _) fun category hc => ?_
    have hcategory : (CategoryRequest.tag tag).category? = some category := by
      simp only [CategoryRequest.category?, hc]
      rfl
    rw [hcategory]
    exact finds_planTo fs r category handle prefer
  | category category => exact finds_planTo fs r category handle prefer
  | unknown => exact .bind (.ofExcept _) fun _ _ => .fail _

end Resolver

/-- The plan of an operation finds a directory by the branch of the operation. -/
theorem finds_plan {op : Operation} {plan : Action ResolvedDirectory} (h : op.plan? r = some plan) :
    Finds fs plan (Found fs r (op.branch? r) op.handle?) := by
  cases op <;> simp only [Operation.plan?, Option.some.injEq, reduceCtorEq] at h <;> subst h
  case full handle prefer => exact Resolver.finds_categoryPlan fs r (by simp) handle prefer
  case plaintext handle prefer => exact Resolver.finds_categoryPlan fs r (by simp) handle prefer
  case legacy => exact Resolver.finds_legacyPlan fs r none
  case legacyRoot prefer => exact Resolver.finds_legacyRootPlan fs r none prefer
  case directory request handle prefer =>
    exact Resolver.finds_requestPlan fs r request handle prefer

end BackupLocator
