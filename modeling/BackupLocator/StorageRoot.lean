import BackupLocator.Json
import BackupLocator.Path.Home

/-!
# Storage roots

Where storage begins, as a platform reports it: a path, or a handle without one, and words for a
person. A site is a root whose path is known.
-/

namespace BackupLocator

/-- A storage root as a platform reports it. -/
structure StorageRoot where
  path : Option Path
  handle : Json
  description : Json
  deriving DecidableEq

/-- A storage root with a known path. -/
structure Site where
  path : Path
  handle : Json
  description : Json
  deriving DecidableEq

/-- The root that a site is. -/
def Site.root (s : Site) : StorageRoot := ⟨some s.path, s.handle, s.description⟩

/-- No two sites are one root. -/
theorem Site.root_inj {site site' : Site} : site.root = site'.root ↔ site = site' := by
  obtain ⟨path, handle, description⟩ := site
  obtain ⟨path', handle', description'⟩ := site'
  simp [Site.root]

namespace StorageRoot

/-- The site that a root is, if its path is known. -/
def site? (r : StorageRoot) : Option Site :=
  r.path.map fun p => ⟨p, r.handle, r.description⟩

/-- The names of the fields of a root. -/
def fieldNames : List String := ["path", "handle", "description"]

/-- The root that fields describe. A path given as a text may begin at a home directory. -/
def ofFields (env : Environment) (fields : List (String × Json)) : Except Failure StorageRoot := do
  if fields.any fun f => !fieldNames.contains f.1 then .error .mistyped
  let path ← match (Json.lookup "path" fields).getD .null with
    | .null => .ok none
    | .str s => (Path.ofHomeText env s).map some
    | _ => .error .mistyped
  return {
    path
    handle := (Json.lookup "handle" fields).getD .null
    description := (Json.lookup "description" fields).getD (.str "")
  }

end StorageRoot

end BackupLocator
