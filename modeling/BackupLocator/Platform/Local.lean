import BackupLocator.Config
import BackupLocator.Handle
import BackupLocator.Platform

/-!
# The platform of a configuration

A platform whose volumes are configured and mounted in the file system at hand. The tag `primary`
stands for the default storage; every other tag for the first volume of that identity.
-/

namespace BackupLocator.Platform

namespace Local

/-- The tag of the default storage. -/
def primaryTag : String := "primary"

/-- What the default storage is called. -/
def primaryDescription : String := "Internal storage"

/-- The fields of a volume. -/
def fieldsOf : Json → Except Failure (List (String × Json))
  | .obj fields => .ok fields
  | _ => .error .unsupported

/-- The path that a value names. -/
def pathOf : Json → Except Failure Path
  | .str s => .ok (.ofText s)
  | _ => .error .mistyped

/-- The root of a volume, if it is mounted. -/
def volumeRoot (fs : FileSystem) (fields : List (String × Json)) :
    Except Failure (Option StorageRoot) :=
  let mount := (Json.lookup "path" fields).getD .null
  if mount.truthy then do
    let path ← pathOf mount
    let description := (Json.lookup "description" fields).getD (.str "")
    return if ← fs.isDirectory path then some ⟨some path, .null, description⟩ else none
  else .ok none

/-- Whether a volume counts as removable. -/
def isRemovable (fields : List (String × Json)) : Bool :=
  ((Json.lookup "removable" fields).getD (.bool true)).truthy

/-- The roots of the removable volumes among some entries. -/
def removableRoots (fs : FileSystem) : List Json → Except Failure (List (Option StorageRoot))
  | [] => .ok []
  | entry :: entries => do
    let fields ← fieldsOf entry
    if isRemovable fields then
      let root ← volumeRoot fs fields
      return root :: (← removableRoots fs entries)
    else removableRoots fs entries

/-- The first volume of an identity. -/
def findVolume (tag : String) : List Json → Except Failure (Option (List (String × Json)))
  | [] => .ok none
  | entry :: entries => do
    let fields ← fieldsOf entry
    if Json.lookup "uuid" fields = some (.str tag) then return some fields
    else findVolume tag entries

/-- The root of the default storage. -/
def defaultRoot (c : Config) : Except Failure (Option StorageRoot) :=
  c.storagePlace.path?.map fun path? =>
    path?.map fun path => ⟨some path, .null, .str primaryDescription⟩

/-- The description of a volume. -/
def description (c : Config) (tag : String) : Except Failure Json := do
  match ← findVolume tag (← c.volumeEntries) with
  | some fields => return (Json.lookup "description" fields).getD .null
  | none => return .null

/-- Where the volume of a tag is said to lie. -/
def mountOf (c : Config) (tag : String) : Except Failure Place :=
  if tag = primaryTag then .ok c.storagePlace
  else do
    match ← findVolume tag (← c.volumeEntries) with
    | some fields => return .ofJson ((Json.lookup "path" fields).getD .null)
    | none => return .nowhere

/-- The directory that a handle stands for: a path without `..` below the place of its volume. -/
def handlePath (c : Config) (fs : FileSystem) (handle : String) : Except Failure Path :=
  if handle = "" then .error (.badHandle .missing)
  else do
    let id ← Handle.documentId handle
    let tag := Handle.volumeTag id
    let mount ← mountOf c tag
    if mount = .nowhere then .error (.badHandle (.unknownVolume tag handle))
    let relative := Path.ofText (Handle.relativePath id)
    if relative.isAbsolute ∨ ".." ∈ relative.parts then
      .error (.badHandle (.escapes tag handle))
    match ← mount.path? with
    | none => .error (.badHandle (.unknownVolume tag handle))
    | some base =>
      let path := base.join relative
      if ← fs.isDirectory path then return path
      else .error (.badHandle (.inaccessible handle path))

end Local

/-- The platform of a configuration. -/
def ofConfig (c : Config) : Platform where
  version := c.version
  defaultRoot := Local.defaultRoot c
  externalRoots fs := do Local.removableRoots fs (← c.volumeEntries)
  description := Local.description c
  handlePath := Local.handlePath c

end BackupLocator.Platform
