import BackupLocator.Handle
import BackupLocator.Layout
import BackupLocator.Selector

/-!
# Finding backup directories

Where the backups of a category lie, checked and made. Each operation starts from what the
platform and the file system say now: it finds a storage root, checks that it may be written to,
and makes the directory that the layout puts below it.
-/

namespace BackupLocator

/-- A backup directory as it was found. -/
structure ResolvedDirectory where
  /-- Where the storage begins. -/
  site : Site
  path : Path
  /-- The category; none for an application root. -/
  category : Option Category
  model : StorageModel
  deriving DecidableEq

/-- What a directory is asked for by. -/
inductive CategoryRequest where
  | tag (tag : String)
  | category (c : Category)
  /-- A value that is neither. -/
  | unknown
  deriving DecidableEq

/-- What finds backup directories: a platform, the identity of the build, and whether removable
roots are tried in the order of their paths. -/
structure Resolver where
  platform : Platform
  package : PackageId
  sorted : Bool

namespace Resolver

/-- The choice of storage roots. -/
def selector (r : Resolver) : Selector := ⟨r.platform, r.sorted⟩

/-! ## Checks -/

/-- Fails unless a path is a directory that may be written to. With `forget` the default root is
forgotten on failure. -/
def requireWritable (path : Path) (forget : Bool) : Action Unit := do
  unless ← Action.canWrite path do
    if forget then Selector.invalidate
    Action.note .error .resolver ("Storage at " ++ path.text ++ " is not writable")
    Action.fail (.notWritable path)

/-- The failure to make a directory, where the file system refused. -/
def creationFailure (path : Path) : Failure → Action Unit
  | .system e => do
    Action.note .error .resolver
      ("Unable to create backup directory " ++ path.text ++ ": " ++ e.message)
    Action.fail (.notCreated path e)
  | e => Action.fail e

/-- A directory and its parents are made, unless they are there. -/
def ensureDirectory (path : Path) : Action Unit := fun s =>
  match (Action.makeDirectory path true true).run s with
  | (.ok (), s') => (.ok (), s')
  | (.error e, s') => creationFailure path e s'

/-! ## Storage roots -/

/-- A storage root that may be written to. A removable root that may not is treated like a missing
one. -/
def writableRoot (r : Resolver) (preferRemovable : Bool) : Action Site := do
  let site ← r.selector.selectRoot preferRemovable
  if ← Action.canWrite site.path then return site
  let default ← r.selector.defaultRoot
  if site ≠ default then
    Action.note .warning .resolver ("Removable storage " ++ site.path.text ++
      " is not writable, falling back to " ++ default.path.text)
    requireWritable default.path true
    return default
  requireWritable site.path true
  return site

/-- What the resolver notes when the platform finds no directory for a handle. -/
def noteHandleFailure (handle : String) : Failure → Action Unit
  | .badHandle _ =>
    Action.note .error .resolver ("Could not resolve directory handle " ++ handle)
  | _ => pure ()

/-- The directory of a handle, as the platform finds it. -/
def handleDirectory (r : Resolver) (handle : String) : Action Path := fun s =>
  match (Action.askHandlePath r.platform handle).run s with
  | (.ok path, s') => (.ok path, s')
  | (.error e, s') => (do noteHandleFailure handle e; Action.fail e : Action Path) s'

/-- The storage root of a handle, with the description of its volume. -/
def handleSite (r : Resolver) (handle : Option String) : Action Site := do
  match handle.filter (· ≠ "") with
  | none =>
    Action.note .error .resolver "Scoped storage requires a directory handle"
    Action.fail (.badHandle .missing)
  | some handle =>
    let path ← r.handleDirectory handle
    let volume ← Action.ofExcept (Handle.volume handle)
    let description ← Action.askDescription r.platform volume
    return ⟨path, .str handle, if description.truthy then description else .str ""⟩

/-! ## Backup directories -/

/-- What the resolver notes about a handle that is not needed. -/
def noteIgnored (handle : Option String) : Action Unit :=
  if handle.isSome then
    Action.note .debug .resolver "Ignoring directory handle on legacy storage"
  else pure ()

/-- The storage root of a category, and the application root on it. -/
def rootOf (r : Resolver) (model : StorageModel) (handle : Option String)
    (preferRemovable : Bool) : Action (Site × Path) :=
  match model with
  | .legacy => do
    noteIgnored handle
    let site ← r.writableRoot preferRemovable
    return (site, Layout.legacyRoot site.path)
  | .scoped => do
    let site ← r.handleSite handle
    let root := Layout.handleRoot site.path
    requireWritable root false
    return (site, root)

/-- The directory of a category: on a storage root where storage is reached by plain paths, else
below the directory that the handle stands for. -/
def categoryDirectory (r : Resolver) (category : Category) (handle : Option String)
    (preferRemovable : Bool) : Action ResolvedDirectory := do
  let model ← Action.ofExcept (StorageModel.ofVersion r.platform.version)
  Action.note .debug .resolver
    s!"Resolving {category.directory} using {model.name} storage"
  let (site, root) ← r.rootOf model handle preferRemovable
  let path ← Action.ofExcept (Layout.backupPath r.package root category)
  ensureDirectory path
  return ⟨site, path, some category, model⟩

/-- The directory of full backups. -/
def fullDirectory (r : Resolver) (handle : Option String) (preferRemovable : Bool) :
    Action ResolvedDirectory :=
  r.categoryDirectory .full handle preferRemovable

/-- The directory of plaintext backups. -/
def plaintextDirectory (r : Resolver) (handle : Option String) (preferRemovable : Bool) :
    Action ResolvedDirectory :=
  r.categoryDirectory .plaintext handle preferRemovable

/-- The directory of backups in the older way, always on the default root. -/
def legacyDirectory (r : Resolver) : Action ResolvedDirectory := do
  let site ← r.selector.defaultRoot
  requireWritable site.path true
  let path ← Action.ofExcept
    (Layout.backupPath r.package (Layout.legacyRoot site.path) .legacy)
  ensureDirectory path
  return ⟨site, path, some .legacy, .legacy⟩

/-- The application root on a storage root that is reached by plain paths. -/
def legacyRootDirectory (r : Resolver) (preferRemovable : Bool) : Action ResolvedDirectory := do
  let site ← r.writableRoot preferRemovable
  let path := Layout.legacyRoot site.path
  ensureDirectory path
  return ⟨site, path, none, .legacy⟩

/-- The directory of whatever category is asked for. -/
def directory (r : Resolver) (request : CategoryRequest) (handle : Option String)
    (preferRemovable : Bool) : Action ResolvedDirectory := do
  match request with
  | .tag tag =>
    match ← Action.ofExcept (Category.ofTag tag) with
    | .legacy => r.legacyDirectory
    | category => r.categoryDirectory category handle preferRemovable
  | .category .legacy => r.legacyDirectory
  | .category category => r.categoryDirectory category handle preferRemovable
  | .unknown =>
    let _ ← Action.ofExcept (StorageModel.ofVersion r.platform.version)
    Action.fail .unsupported

/-! ## Reading -/

/-- Whether the default storage may be written to. Storage that is missing may not. -/
def canWriteDefault (r : Resolver) : Action Bool := fun s =>
  match r.selector.defaultRoot.run s with
  | (.ok site, s') =>
    (do
      let writable ← Action.canWrite site.path
      unless writable do Selector.invalidate
      return writable : Action Bool) s'
  | (.error e, s') => if e.isUnavailable then (.ok false, s') else (.error e, s')

/-- The paths among some that are directories. -/
def existing : List Path → Action (List Path)
  | [] => return []
  | path :: paths => do
    if ← Action.isDirectory path then return path :: (← existing paths)
    else existing paths

/-- The directories on the default root where older backups lie, the one that is written to first.
-/
def legacyReadCandidates (r : Resolver) : Action (List Path) := do
  let site ← r.selector.defaultRoot
  let nested ← Action.ofExcept
    (Layout.backupPath r.package (Layout.legacyRoot site.path) .legacy)
  let flattened ← Action.ofExcept (Layout.flattenedRoot r.package site.path)
  existing [nested, flattened]

end Resolver

end BackupLocator
