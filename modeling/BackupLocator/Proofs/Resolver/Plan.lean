import BackupLocator.Operation
import BackupLocator.Proofs.Action

/-!
# Finding before making

An operation that gives a directory finds and checks it first, and makes it only then. The first
part is the plan of the operation. The operation is its plan followed by the making of the
directory, which is the one step of a resolver that changes the file system.
-/

namespace BackupLocator

namespace Resolver

/-! ## Steps that go on from a failure -/

theorem ensureDirectory_eq (path : Path) :
    ensureDirectory path = (do
      match ← (Action.makeDirectory path true true).attempt with
      | .ok () => pure ()
      | .error e => creationFailure path e) := by
  funext s
  change _ = Action.run _ s
  rw [Action.run_bind, Action.run_attempt]
  unfold ensureDirectory
  rcases (Action.makeDirectory path true true).run s with ⟨_ | _, _⟩ <;> rfl

theorem handleDirectory_eq (r : Resolver) (handle : String) :
    r.handleDirectory handle = (do
      match ← (Action.askHandlePath r.platform handle).attempt with
      | .ok path => pure path
      | .error e => do
        noteHandleFailure handle e
        Action.fail e) := by
  funext s
  change _ = Action.run _ s
  rw [Action.run_bind, Action.run_attempt]
  unfold handleDirectory
  rcases (Action.askHandlePath r.platform handle).run s with ⟨_ | _, _⟩ <;> rfl

theorem canWriteDefault_eq (r : Resolver) :
    r.canWriteDefault = (do
      match ← r.selector.defaultRoot.attempt with
      | .ok site => do
        let writable ← Action.canWrite site.path
        unless writable do Selector.invalidate
        return writable
      | .error e => if e.isUnavailable then return false else Action.fail e) := by
  funext s
  change _ = Action.run _ s
  rw [Action.run_bind, Action.run_attempt]
  unfold canWriteDefault
  rcases r.selector.defaultRoot.run s with ⟨e | _, _⟩
  · dsimp only
    split <;> rfl
  · rfl

/-! ## Plans -/

/-- The directory of a category, not made yet. -/
def categoryPlan (r : Resolver) (category : Category) (handle : Option String)
    (preferRemovable : Bool) : Action ResolvedDirectory := do
  let model ← Action.ofExcept (StorageModel.ofVersion r.platform.version)
  Action.note .debug .resolver
    s!"Resolving {category.directory} using {model.name} storage"
  let (site, root) ← r.rootOf model handle preferRemovable
  let path ← Action.ofExcept (Layout.backupPath r.package root category)
  return ⟨site, path, some category, model⟩

/-- The directory of backups in the older way, not made yet. -/
def legacyPlan (r : Resolver) : Action ResolvedDirectory := do
  let site ← r.selector.defaultRoot
  requireWritable site.path true
  let path ← Action.ofExcept
    (Layout.backupPath r.package (Layout.legacyRoot site.path) .legacy)
  return ⟨site, path, some .legacy, .legacy⟩

/-- The application root, not made yet. -/
def legacyRootPlan (r : Resolver) (preferRemovable : Bool) : Action ResolvedDirectory := do
  let site ← r.writableRoot preferRemovable
  return ⟨site, Layout.legacyRoot site.path, none, .legacy⟩

/-- The directory of a category in the way of that category, not made yet. -/
def planTo (r : Resolver) (category : Category) (handle : Option String)
    (preferRemovable : Bool) : Action ResolvedDirectory :=
  match category with
  | .legacy => r.legacyPlan
  | category => r.categoryPlan category handle preferRemovable

/-- The directory of whatever category is asked for, not made yet. -/
def requestPlan (r : Resolver) (request : CategoryRequest) (handle : Option String)
    (preferRemovable : Bool) : Action ResolvedDirectory := do
  match request with
  | .tag tag => r.planTo (← Action.ofExcept (Category.ofTag tag)) handle preferRemovable
  | .category category => r.planTo category handle preferRemovable
  | .unknown =>
    let _ ← Action.ofExcept (StorageModel.ofVersion r.platform.version)
    Action.fail .unsupported

/-- A planned directory is made. -/
def establish (d : ResolvedDirectory) : Action ResolvedDirectory := do
  ensureDirectory d.path
  return d

theorem categoryDirectory_eq (r : Resolver) (category : Category) (handle : Option String)
    (prefer : Bool) :
    r.categoryDirectory category handle prefer =
      r.categoryPlan category handle prefer >>= establish := by
  simp only [categoryDirectory, categoryPlan, establish, bind_assoc, pure_bind]

theorem legacyDirectory_eq (r : Resolver) : r.legacyDirectory = r.legacyPlan >>= establish := by
  simp only [legacyDirectory, legacyPlan, establish, bind_assoc, pure_bind]

theorem legacyRootDirectory_eq (r : Resolver) (prefer : Bool) :
    r.legacyRootDirectory prefer = r.legacyRootPlan prefer >>= establish := by
  simp only [legacyRootDirectory, legacyRootPlan, establish, bind_assoc, pure_bind]

theorem directory_eq (r : Resolver) (request : CategoryRequest) (handle : Option String)
    (prefer : Bool) :
    r.directory request handle prefer = r.requestPlan request handle prefer >>= establish := by
  rcases request with tag | (_ | _ | _) | _
  · simp only [directory, requestPlan, bind_assoc]
    refine bind_congr fun category => ?_
    cases category with
    | legacy => exact legacyDirectory_eq r
    | full | plaintext => exact categoryDirectory_eq ..
  · exact categoryDirectory_eq ..
  · exact categoryDirectory_eq ..
  · exact legacyDirectory_eq r
  · simp only [directory, requestPlan, bind_assoc]
    rfl

end Resolver

namespace Operation

/-- The plan of an operation, if it gives a directory. -/
def plan? (r : Resolver) : Operation → Option (Action ResolvedDirectory)
  | .full handle prefer => some (r.categoryPlan .full handle prefer)
  | .plaintext handle prefer => some (r.categoryPlan .plaintext handle prefer)
  | .legacy => some r.legacyPlan
  | .legacyRoot prefer => some (r.legacyRootPlan prefer)
  | .directory request handle prefer => some (r.requestPlan request handle prefer)
  | _ => none

/-- An operation with a plan carries it out. -/
theorem perform_of_plan {r : Resolver} {op : Operation} {plan : Action ResolvedDirectory}
    (h : op.plan? r = some plan) :
    op.perform r = Answer.directory <$> (plan >>= Resolver.establish) := by
  cases op <;> simp only [plan?, Option.some.injEq, reduceCtorEq] at h <;> subst h
  case full | plaintext =>
    rw [← Resolver.categoryDirectory_eq]
    rfl
  case legacy =>
    rw [← Resolver.legacyDirectory_eq]
    rfl
  case legacyRoot =>
    rw [← Resolver.legacyRootDirectory_eq]
    rfl
  case directory =>
    rw [← Resolver.directory_eq]
    rfl

/-- The other operations only read. -/
theorem plan?_eq_none_iff {r : Resolver} {op : Operation} :
    op.plan? r = none ↔ op.isRead = true := by
  cases op <;> simp [plan?, isRead]

theorem exists_plan (r : Resolver) {op : Operation} (h : op.isRead = false) :
    ∃ plan, op.plan? r = some plan := by
  rw [← Option.ne_none_iff_exists', ne_eq, plan?_eq_none_iff, h]
  exact Bool.false_ne_true

end Operation

end BackupLocator
