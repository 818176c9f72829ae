import BackupLocator.Platform

/-!
# Platforms given by tables

A platform whose every answer is written down beforehand.
-/

namespace BackupLocator

/-- What a platform answers to a handle. -/
inductive HandleAnswer where
  | path (text : String)
  | refused (message : String)
  deriving DecidableEq

/-- The answers of a platform, written down. Roots are the fields that describe them. -/
structure PlatformTable where
  version : Json
  defaultRoot : Option (List (String × Json))
  roots : List (Option (List (String × Json)))
  descriptions : List (String × Json)
  handles : List (String × HandleAnswer)

namespace PlatformTable

/-- The root that a row describes. -/
def root (env : Environment) :
    Option (List (String × Json)) → Except Failure (Option StorageRoot)
  | none => .ok none
  | some fields => (StorageRoot.ofFields env fields).map some

/-- The path that a table has for a handle. -/
def handlePath (t : PlatformTable) (handle : String) : Except Failure Path :=
  match t.handles.lookup handle with
  | some (.path text) => .ok (.ofText text)
  | some (.refused message) => .error (.badHandle (.reported message))
  | none => .error (.badHandle (.reported ("Unknown handle: " ++ handle)))

/-- The platform that answers as a table says. -/
def platform (t : PlatformTable) (env : Environment) : Platform where
  version := .ofJson t.version
  defaultRoot := root env t.defaultRoot
  externalRoots _ := t.roots.mapM (root env)
  description volume := .ok ((Json.lookup volume t.descriptions).getD .null)
  handlePath _ := t.handlePath

end PlatformTable

end BackupLocator
