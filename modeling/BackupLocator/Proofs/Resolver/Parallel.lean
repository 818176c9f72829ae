import BackupLocator.Proofs.Resolver.Plan

/-!
# Two resolvers side by side

If the single steps of two resolvers are alike for a relation between sessions, so is all that they
do: each function of a resolver is a composition of such steps, and one fact for each function says
so. The steps that ask no platform are the same for every resolver. What is found by a handle takes
fewer steps than the rest, and has facts of its own.
-/

namespace BackupLocator

open BackupLocator.Action

variable {R : Session → Session → Prop}

/-- The steps that neither ask a platform nor make a directory are alike. -/
structure CommonSteps (R : Session → Session → Prop) : Prop where
  note : ∀ level component text, Alike R (note level component text) (note level component text)
  invalidate : Alike R Selector.invalidate Selector.invalidate
  isDirectory : ∀ path, Alike R (isDirectory path) (isDirectory path)
  canWrite : ∀ path, Alike R (canWrite path) (canWrite path)

/-- Two resolvers for one build have platforms that answer alike. -/
structure SameAnswers (R : Session → Session → Prop) (r r' : Resolver) : Prop where
  package : r'.package = r.package
  sorted : r'.sorted = r.sorted
  version : r'.platform.version = r.platform.version
  defaultRoot : Alike R r.selector.defaultRoot r'.selector.defaultRoot
  externalRoots : Alike R (askExternalRoots r.platform) (askExternalRoots r'.platform)
  description : ∀ volume,
    Alike R (askDescription r.platform volume) (askDescription r'.platform volume)
  handlePath : ∀ handle,
    Alike R (askHandlePath r.platform handle) (askHandlePath r'.platform handle)

/-- The steps that neither ask a platform nor forget anything are alike. -/
structure QuietSteps (R : Session → Session → Prop) : Prop where
  note : ∀ level component text, Alike R (note level component text) (note level component text)
  canWrite : ∀ path, Alike R (canWrite path) (canWrite path)

/-- Two resolvers for one build have platforms that answer alike where a handle is given. -/
structure SameHandles (R : Session → Session → Prop) (r r' : Resolver) : Prop where
  package : r'.package = r.package
  version : r'.platform.version = r.platform.version
  description : ∀ volume,
    Alike R (askDescription r.platform volume) (askDescription r'.platform volume)
  handlePath : ∀ handle,
    Alike R (askHandlePath r.platform handle) (askHandlePath r'.platform handle)

theorem CommonSteps.quiet (h : CommonSteps R) : QuietSteps R := ⟨h.note, h.canWrite⟩

theorem SameAnswers.handles {r r' : Resolver} (same : SameAnswers R r r') : SameHandles R r r' :=
  ⟨same.package, same.version, same.description, same.handlePath⟩

theorem SameAnswers.candidates {r r' : Resolver} (same : SameAnswers R r r') :
    Alike R r.selector.candidates r'.selector.candidates := by
  have hsorted : r'.selector.sorted = r.selector.sorted := same.sorted
  unfold Selector.candidates
  rw [hsorted]
  exact .bind same.externalRoots fun _ => .pure _

/-! ## Finding by a handle -/

namespace QuietSteps

variable (h : QuietSteps R)
include h

theorem noteAndFail (α : Type) (level : Level) (component : Component) (text : String)
    (e : Failure) :
    Alike R (do Action.note level component text; Action.fail e : Action α)
      (do Action.note level component text; Action.fail e) :=
  .bind (h.note level component text) fun _ => .fail e

/-- A check that is not to forget anything. -/
theorem requireWritable (path : Path) :
    Alike R (Resolver.requireWritable path false) (Resolver.requireWritable path false) := by
  unfold Resolver.requireWritable
  refine .bind (h.canWrite path) fun writable => ?_
  cases writable with
  | true => exact .pure _
  | false => exact h.noteAndFail Unit _ _ _ _

theorem noteHandleFailure (handle : String) (e : Failure) :
    Alike R (Resolver.noteHandleFailure handle e) (Resolver.noteHandleFailure handle e) := by
  unfold Resolver.noteHandleFailure
  split
  · exact h.note _ _ _
  · exact .pure _

theorem noteFailure (e : Failure) : Alike R (Action.noteFailure e) (Action.noteFailure e) := by
  unfold Action.noteFailure
  split
  · split
    · exact h.note _ _ _
    · exact .pure _
  · exact .pure _

theorem creationFailure (path : Path) (e : Failure) :
    Alike R (Resolver.creationFailure path e) (Resolver.creationFailure path e) := by
  unfold Resolver.creationFailure
  split
  · exact h.noteAndFail Unit _ _ _ _
  · exact .fail _

/-- A planned directory is made, where making a directory is alike. -/
theorem establish
    (hmake : ∀ path, Alike R (makeDirectory path true true) (makeDirectory path true true))
    (d : ResolvedDirectory) : Alike R (Resolver.establish d) (Resolver.establish d) := by
  unfold Resolver.establish
  rw [Resolver.ensureDirectory_eq]
  refine .bind (.bind (hmake d.path).attempt fun outcome => ?_) fun _ => .pure _
  cases outcome with
  | ok => exact .pure _
  | error e => exact h.creationFailure d.path e

variable {r r' : Resolver} (same : SameHandles R r r')
include same

theorem handleDirectory (handle : String) :
    Alike R (r.handleDirectory handle) (r'.handleDirectory handle) := by
  rw [Resolver.handleDirectory_eq, Resolver.handleDirectory_eq]
  refine .bind (same.handlePath handle).attempt fun outcome => ?_
  cases outcome with
  | ok path => exact .pure _
  | error e => exact .bind (h.noteHandleFailure handle e) fun _ => .fail _

theorem handleSite (handle : Option String) :
    Alike R (r.handleSite handle) (r'.handleSite handle) := by
  unfold Resolver.handleSite
  cases handle.filter (· ≠ "") with
  | none => exact .bind (h.note _ _ _) fun _ => .fail _
  | some handle =>
    refine .bind (h.handleDirectory same handle) fun path => ?_
    refine .bind (.ofExcept _) fun volume => ?_
    exact .bind (same.description volume) fun _ => .pure _

/-- By a handle a root is found in one way, whatever is preferred. -/
theorem rootOf (handle : Option String) (prefer prefer' : Bool) :
    Alike R (r.rootOf .scoped handle prefer) (r'.rootOf .scoped handle prefer') := by
  unfold Resolver.rootOf
  refine .bind (h.handleSite same handle) fun site => ?_
  exact .bind (h.requireWritable _) fun _ => .pure _

theorem categoryPlan (hmodel : StorageModel.ofVersion r.platform.version = .ok .scoped)
    (category : Category) (handle : Option String) (prefer prefer' : Bool) :
    Alike R (r.categoryPlan category handle prefer) (r'.categoryPlan category handle prefer') := by
  have hscoped : Action.ofExcept (.ok StorageModel.scoped) = pure StorageModel.scoped := rfl
  unfold Resolver.categoryPlan
  rw [same.version, same.package, hmodel, hscoped, pure_bind, pure_bind]
  refine .bind (h.note _ _ _) fun _ => ?_
  refine .bind (h.rootOf same handle prefer prefer') fun (site, root) => ?_
  exact .bind (.ofExcept _) fun _ => .pure _

end QuietSteps

namespace CommonSteps

variable (h : CommonSteps R)
include h

theorem requireWritable (path : Path) (forget : Bool) :
    Alike R (Resolver.requireWritable path forget) (Resolver.requireWritable path forget) := by
  unfold Resolver.requireWritable
  refine .bind (h.canWrite path) fun writable => ?_
  cases writable with
  | true => exact .pure _
  | false =>
    have hend := h.quiet.noteAndFail Unit .error .resolver
      ("Storage at " ++ path.text ++ " is not writable") (.notWritable path)
    cases forget with
    | true => exact .bind h.invalidate fun _ => hend
    | false => exact hend

theorem noteIgnored (handle : Option String) :
    Alike R (Resolver.noteIgnored handle) (Resolver.noteIgnored handle) := by
  unfold Resolver.noteIgnored
  split
  · exact h.note _ _ _
  · exact .pure _

theorem existing (paths : List Path) :
    Alike R (Resolver.existing paths) (Resolver.existing paths) := by
  induction paths with
  | nil => exact .pure _
  | cons path paths ih =>
    refine .bind (h.isDirectory path) fun found => ?_
    cases found with
    | true => exact .bind ih fun _ => .pure _
    | false => exact ih

variable {r r' : Resolver} (same : SameAnswers R r r')
include same

/-! ## Choosing a root -/

theorem selectRoot (prefer : Bool) :
    Alike R (r.selector.selectRoot prefer) (r'.selector.selectRoot prefer) := by
  have hversion : r'.selector.platform.version = r.selector.platform.version := same.version
  unfold Selector.selectRoot Selector.offersRemovable
  rw [hversion]
  refine .bind ?_ fun offers => ?_
  · cases prefer with
    | true => exact .ofExcept _
    | false => exact .pure _
  cases offers with
  | false => exact same.defaultRoot
  | true =>
    refine .bind same.candidates fun sites => ?_
    cases sites.head? with
    | some site => exact .bind (h.note _ _ _) fun _ => .pure _
    | none => exact .bind (h.note _ _ _) fun _ => same.defaultRoot

theorem writableRoot (prefer : Bool) :
    Alike R (r.writableRoot prefer) (r'.writableRoot prefer) := by
  unfold Resolver.writableRoot
  refine .bind (h.selectRoot same prefer) fun site => ?_
  refine .bind (h.canWrite site.path) fun writable => ?_
  cases writable with
  | true => exact .pure _
  | false =>
    refine .bind same.defaultRoot fun default => ?_
    by_cases hsite : site = default
    · simp only [hsite, ne_eq, not_true_eq_false, if_false]
      exact .bind (h.requireWritable _ _) fun _ => .pure _
    · simp only [hsite, ne_eq, not_false_eq_true, if_true]
      exact .bind (h.note _ _ _) fun _ => .bind (h.requireWritable _ _) fun _ => .pure _

theorem rootOf (model : StorageModel) (handle : Option String) (prefer : Bool) :
    Alike R (r.rootOf model handle prefer) (r'.rootOf model handle prefer) := by
  unfold Resolver.rootOf
  match model with
  | .legacy =>
    refine .bind (h.noteIgnored handle) fun _ => ?_
    exact .bind (h.writableRoot same prefer) fun _ => .pure _
  | .scoped => exact h.quiet.rootOf same.handles handle prefer prefer

/-! ## Plans -/

theorem categoryPlan (category : Category) (handle : Option String) (prefer : Bool) :
    Alike R (r.categoryPlan category handle prefer) (r'.categoryPlan category handle prefer) := by
  unfold Resolver.categoryPlan
  rw [same.version, same.package]
  refine .bind (.ofExcept _) fun model => ?_
  refine .bind (h.note _ _ _) fun _ => ?_
  refine .bind (h.rootOf same model handle prefer) fun (site, root) => ?_
  exact .bind (.ofExcept _) fun _ => .pure _

theorem legacyPlan : Alike R r.legacyPlan r'.legacyPlan := by
  unfold Resolver.legacyPlan
  rw [same.package]
  refine .bind same.defaultRoot fun site => ?_
  refine .bind (h.requireWritable _ _) fun _ => ?_
  exact .bind (.ofExcept _) fun _ => .pure _

theorem legacyRootPlan (prefer : Bool) :
    Alike R (r.legacyRootPlan prefer) (r'.legacyRootPlan prefer) :=
  .bind (h.writableRoot same prefer) fun _ => .pure _

theorem planTo (category : Category) (handle : Option String) (prefer : Bool) :
    Alike R (r.planTo category handle prefer) (r'.planTo category handle prefer) := by
  cases category with
  | legacy => exact h.legacyPlan same
  | full | plaintext => exact h.categoryPlan same _ handle prefer

theorem requestPlan (request : CategoryRequest) (handle : Option String) (prefer : Bool) :
    Alike R (r.requestPlan request handle prefer) (r'.requestPlan request handle prefer) := by
  unfold Resolver.requestPlan
  cases request with
  | tag tag => exact .bind (.ofExcept _) fun category => h.planTo same category handle prefer
  | category category => exact h.planTo same category handle prefer
  | unknown =>
    dsimp only
    rw [same.version]
    exact .bind (.ofExcept _) fun _ => .fail _

theorem plan {op : Operation} {x x' : Action ResolvedDirectory} (hx : op.plan? r = some x)
    (hx' : op.plan? r' = some x') : Alike R x x' := by
  cases op <;> simp only [Operation.plan?, Option.some.injEq, reduceCtorEq] at hx hx' <;>
    subst hx hx'
  case full handle prefer => exact h.categoryPlan same .full handle prefer
  case plaintext handle prefer => exact h.categoryPlan same .plaintext handle prefer
  case legacy => exact h.legacyPlan same
  case legacyRoot prefer => exact h.legacyRootPlan same prefer
  case directory request handle prefer => exact h.requestPlan same request handle prefer

/-! ## Reading -/

theorem canWriteDefault : Alike R r.canWriteDefault r'.canWriteDefault := by
  rw [Resolver.canWriteDefault_eq, Resolver.canWriteDefault_eq]
  refine .bind same.defaultRoot.attempt fun outcome => ?_
  cases outcome with
  | ok site =>
    refine .bind (h.canWrite site.path) fun writable => ?_
    cases writable with
    | true => exact .pure _
    | false => exact .bind h.invalidate fun _ => .pure _
  | error e =>
    dsimp only
    split
    · exact .pure _
    · exact .fail _

theorem legacyReadCandidates : Alike R r.legacyReadCandidates r'.legacyReadCandidates := by
  unfold Resolver.legacyReadCandidates
  rw [same.package]
  refine .bind same.defaultRoot fun site => ?_
  refine .bind (.ofExcept _) fun nested => ?_
  exact .bind (.ofExcept _) fun flattened => h.existing _

theorem read {op : Operation} (hop : op.isRead = true) :
    Alike R (op.perform r) (op.perform r') := by
  cases op with
  | canWriteDefault => exact .bind (h.canWriteDefault same) fun _ => .pure _
  | legacyReadCandidates => exact .bind (h.legacyReadCandidates same) fun _ => .pure _
  | selectRoot prefer => exact .bind (h.selectRoot same prefer) fun _ => .pure _
  | defaultRoot => exact .bind same.defaultRoot fun _ => .pure _
  | removableCandidates => exact .bind same.candidates fun _ => .pure _
  | invalidate => exact .bind h.invalidate fun _ => .pure _
  | full | plaintext | legacy | legacyRoot | directory => simp [Operation.isRead] at hop

/-! ## All operations -/

/-- Where making a directory is alike too, so is everything that the resolvers are asked. -/
theorem perform
    (hmake : ∀ path, Alike R (makeDirectory path true true) (makeDirectory path true true))
    (op : Operation) : Alike R (op.perform r) (op.perform r') := by
  cases hop : op.isRead with
  | true => exact h.read same hop
  | false =>
    obtain ⟨x, hx⟩ := Operation.exists_plan r hop
    obtain ⟨x', hx'⟩ := Operation.exists_plan r' hop
    rw [Operation.perform_of_plan hx, Operation.perform_of_plan hx', map_eq_pure_bind,
      map_eq_pure_bind]
    exact .bind (.bind (h.plan same hx hx') (h.quiet.establish hmake)) fun _ => .pure _

end CommonSteps

/-! ## Steps that only record -/

/-- Whether an event asks the platform for roots. -/
def Event.asksForRoots : Event → Bool
  | .defaultRoot _ => true
  | .externalRoots => true
  | _ => false

section

variable {P : Session → Prop} (hrecord : ∀ s event, event.asksForRoots = false → P s →
  P { s with journal := event :: s.journal })
include hrecord

/-- What is kept where an event is recorded is kept by the steps that do nothing else. -/
theorem QuietSteps.of_recorded : QuietSteps (Beside P) where
  note _ _ _ := alike_beside_iff.mpr fun s h => hrecord s _ rfl h
  canWrite path := alike_beside_iff.mpr fun s h => by
    unfold Action.canWrite run
    dsimp only
    cases s.files.canWrite path with
    | ok writable => exact hrecord s _ rfl h
    | error e => exact h

theorem SameHandles.of_recorded (r : Resolver) : SameHandles (Beside P) r r where
  package := rfl
  version := rfl
  description _ := .bind (alike_beside_iff.mpr fun s h => hrecord s _ rfl h) fun _ => .ofExcept _
  handlePath handle := alike_beside_iff.mpr fun s h => by
    have hasked := hrecord s (.handlePath handle) rfl h
    unfold askHandlePath run
    dsimp only
    cases r.platform.handlePath s.files handle with
    | ok path => exact hasked
    | error e =>
      have hfail : Alike (Beside P) (fail e : Action Path) (fail e) := .fail e
      have hnoted := ((QuietSteps.of_recorded hrecord).noteFailure e).bind fun _ => hfail
      exact alike_beside_iff.mp hnoted _ hasked

end

end BackupLocator
