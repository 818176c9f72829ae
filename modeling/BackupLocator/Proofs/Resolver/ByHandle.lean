import BackupLocator.Proofs.Resolver.Scoped

/-!
# The directory for a handle

Where storage is reached by handles, nothing is chosen and nothing is remembered. So the directory
that an operation settles on is a value: the platform and the files say what a handle comes to, and
an operation by a handle gives that directory if it can be made.
-/

namespace BackupLocator

open BackupLocator.Action

/-- A path that may be written to, or the failure that says that it may not. -/
def FileSystem.writable (fs : FileSystem) (path : Path) : Except Failure Unit := do
  if ← fs.canWrite path then return ()
  else .error (.notWritable path)

theorem FileSystem.writable_eq_ok_iff {fs : FileSystem} {path : Path} :
    fs.writable path = .ok () ↔ fs.canWrite path = .ok true := by
  unfold writable
  rcases fs.canWrite path with e | _ | _ <;> simp [bind, Except.bind, pure, Except.pure]

namespace Resolver

variable (r : Resolver) (fs : FileSystem)

/-- The storage root of a handle in certain files. -/
def siteAt (handle : Option String) : Except Failure Site :=
  match handle.filter (· ≠ "") with
  | none => .error (.badHandle .missing)
  | some handle => do
    let path ← r.platform.handlePath fs handle
    let volume ← Handle.volume handle
    let description ← r.platform.description volume
    return ⟨path, .str handle, if description.truthy then description else .str ""⟩

/-- The directory of a category for a handle in certain files, if its root may be written to. -/
def directoryAt (category : Category) (handle : Option String) :
    Except Failure ResolvedDirectory := do
  let site ← r.siteAt fs handle
  fs.writable (Layout.handleRoot site.path)
  let path ← Layout.backupPath r.package (Layout.handleRoot site.path) category
  return ⟨site, path, some category, .scoped⟩

/-! ## Steps -/

variable {r} {s : Session}

theorem does_handleDirectory (handle : String) (s : Session) :
    (r.handleDirectory handle).Does s (r.platform.handlePath s.files handle) s.files s.memo [] := by
  rw [handleDirectory_eq]
  refine (Does.askHandlePath r.platform handle s).attempt.bind_unchecked fun journal => ?_
  cases r.platform.handlePath s.files handle with
  | ok path => exact .pure path ⟨s.files, s.memo, journal⟩
  | error e =>
    have hnote : (noteHandleFailure handle e).Does ⟨s.files, s.memo, journal⟩ (.ok ()) s.files
        s.memo [] := by
      unfold noteHandleFailure
      split
      · exact .note _ _ _ _
      · exact .pure () _
    exact hnote.bind_unchecked fun journal => .fail e ⟨s.files, s.memo, journal⟩

theorem does_handleSite (handle : Option String) (s : Session) :
    (r.handleSite handle).Does s (r.siteAt s.files handle) s.files s.memo [] := by
  unfold handleSite siteAt
  cases handle.filter (· ≠ "") with
  | none =>
    exact (Does.note _ _ _ s).bind_unchecked fun journal => .fail _ ⟨s.files, s.memo, journal⟩
  | some handle =>
    refine (does_handleDirectory handle s).bind_reads fun path journal => ?_
    refine (Does.ofExcept (Handle.volume handle) _).bind_reads fun volume journal => ?_
    exact (Does.askDescription r.platform volume _).bind_reads fun description journal =>
      .pure _ ⟨s.files, s.memo, journal⟩

theorem does_requireWritable (path : Path) (s : Session) :
    (requireWritable path false).Does s (s.files.writable path) s.files s.memo [path] := by
  unfold requireWritable FileSystem.writable
  refine (Does.canWrite path s).bind_reads fun writable journal => ?_
  cases writable with
  | true => exact .pure () ⟨s.files, s.memo, journal⟩
  | false =>
    exact (Does.note _ _ _ _).bind_unchecked fun journal => .fail _ ⟨s.files, s.memo, journal⟩

/-- By a handle the plan is the directory for it, whatever is preferred. -/
theorem does_categoryPlan (hmodel : StorageModel.ofVersion r.platform.version = .ok .scoped)
    (category : Category) (handle : Option String) (prefer : Bool) (s : Session) :
    ∃ paths, (r.categoryPlan category handle prefer).Does s (r.directoryAt s.files category handle)
      s.files s.memo paths := by
  have hplan : r.categoryPlan category handle prefer = (do
      Action.note .debug .resolver
        s!"Resolving {category.directory} using {StorageModel.scoped.name} storage"
      let site ← r.handleSite handle
      requireWritable (Layout.handleRoot site.path) false
      let path ← Action.ofExcept
        (Layout.backupPath r.package (Layout.handleRoot site.path) category)
      return ⟨site, path, some category, .scoped⟩) := by
    have hscoped : Action.ofExcept (StorageModel.ofVersion r.platform.version) =
        pure StorageModel.scoped := by
      rw [hmodel]
      rfl
    simp only [categoryPlan, hscoped, rootOf, bind_assoc, pure_bind]
  have hsited (journal : List Event) := does_handleSite (r := r) handle ⟨s.files, s.memo, journal⟩
  rw [hplan]
  unfold directoryAt
  cases hsite : r.siteAt s.files handle with
  | error e =>
    simp only [hsite] at hsited
    exact ⟨_, (Does.note _ _ _ s).bind fun journal => (hsited journal).bind_error⟩
  | ok site =>
    simp only [hsite] at hsited
    refine ⟨[Layout.handleRoot site.path], (Does.note _ _ _ s).bind fun journal => ?_⟩
    refine (hsited journal).bind fun journal => ?_
    refine (does_requireWritable _ _).bind_reads fun _ journal => ?_
    exact (Does.ofExcept _ _).bind_reads fun path journal => .pure _ ⟨s.files, s.memo, journal⟩

end Resolver

namespace Operation

variable {r : Resolver} {op : Operation}

/-- By a handle an operation gives the directory for it, if that can be made. Nothing else matters
to it, and what is remembered stays so. -/
theorem IsScoped.does (h : op.IsScoped r) (s : Session) :
    ∃ category paths, op.branch? r = some (some category, .scoped) ∧
      (op.perform r).Does s
        (((r.directoryAt s.files category op.handle?).bind (Resolver.madeIn s.files)).map
          .directory)
        (filesAfter s.files (r.directoryAt s.files category op.handle?)) s.memo paths := by
  obtain ⟨hmodel, category, hbranch, -, hplan⟩ := h.plan
  obtain ⟨paths, hplanned⟩ :=
    Resolver.does_categoryPlan hmodel category op.handle? op.prefers s
  exact ⟨category, paths, hbranch, does_perform hplan hplanned⟩

/-- The site of a directory that is given by a handle is that of the handle. -/
theorem IsScoped.siteAt_of_success {s s' : Session} {d : ResolvedDirectory} (h : op.IsScoped r)
    (hrun : (op.perform r).run s = (.ok (.directory d), s')) :
    r.siteAt s.files op.handle? = .ok d.site := by
  obtain ⟨category, paths, -, hdoes⟩ := h.does s
  obtain ⟨hsettled, -⟩ := settled_of_success hrun hdoes
  obtain ⟨site, hsite, hd⟩ := Failure.bind_eq_ok_iff.mp hsettled
  obtain ⟨-, -, hd⟩ := Failure.bind_eq_ok_iff.mp hd
  obtain ⟨path, -, hd⟩ := Failure.bind_eq_ok_iff.mp hd
  obtain rfl := Except.ok.inj hd
  exact hsite

end Operation

end BackupLocator
