import BackupLocator.Json
import BackupLocator.Layout
import BackupLocator.Path.Home
import BackupLocator.StorageModel

/-!
# Configurations

What is configured: the version of the platform, the identity of the build, a preference for
removable storage, where the default storage lies, and the known volumes. Values other than the
place of the default storage are kept as they were given and judged where they are used.
-/

namespace BackupLocator

/-- Where the default storage is said to lie. -/
inductive Place where
  | nowhere
  | path (p : Path)
  /-- A value, not null, that was put in later. -/
  | given (v : Json)
  deriving DecidableEq

namespace Place

/-- The place that a value names when it is put in as it is. -/
def ofJson : Json → Place
  | .null => .nowhere
  | v => .given v

/-- The place as a value. -/
def toJson : Place → Json
  | .nowhere => .null
  | .path p => .str p.text
  | .given v => v

/-- The path of a place, if there is one; only a text names a path. -/
def path? : Place → Except Failure (Option Path)
  | .nowhere => .ok none
  | .path p => .ok (some p)
  | .given (.str s) => .ok (some (.ofText s))
  | .given _ => .error .mistyped

/-- The place that a field of a new configuration names. A text may begin at a home directory. -/
def ofField (env : Environment) : Json → Except Failure Place
  | .null => .ok .nowhere
  | .str s => (Path.ofHomeText env s).map .path
  | _ => .error .mistyped

end Place

/-- A configuration. -/
structure Config where
  platformVersion : Json
  packageId : Json
  preferRemovable : Json
  storagePlace : Place
  volumes : Json
  sortCandidates : Json
  deriving DecidableEq

namespace Config

/-- What is configured where nothing is said. -/
def default : Config where
  platformVersion := .int Version.firstScoped
  packageId := .str PackageId.production
  preferRemovable := .null
  storagePlace := .path (.ofText "/storage/emulated/0")
  volumes := .arr []
  sortCandidates := .bool false

/-- The field that names where the default storage lies. -/
def placeField : String := "external_storage_dir"

/-- The names of the fields. -/
def fieldNames : List String :=
  ["platform_version", "package_id", "prefer_removable", placeField, "volumes", "sort_candidates"]

/-- The configuration with a field set to a value as it is. A name that is not one of a field
sets nothing. -/
def setField (c : Config) (name : String) (v : Json) : Config :=
  if name = "platform_version" then { c with platformVersion := v }
  else if name = "package_id" then { c with packageId := v }
  else if name = "prefer_removable" then { c with preferRemovable := v }
  else if name = placeField then { c with storagePlace := .ofJson v }
  else if name = "volumes" then { c with volumes := v }
  else if name = "sort_candidates" then { c with sortCandidates := v }
  else c

/-- The default configuration with the given fields set, the place of the default storage apart. -/
def withFields (fields : List (String × Json)) : Config :=
  fields.foldl (fun c f => if f.1 = placeField then c else c.setField f.1 f.2) default

/-- Whether every name is one of a field. -/
def areFieldNames (fields : List (String × Json)) : Bool :=
  fields.all fun f => fieldNames.contains f.1

/-- The configuration that fields describe. A text for the place of the default storage may begin
at a home directory. -/
def ofFields (env : Environment) (fields : List (String × Json)) : Except Failure Config :=
  if areFieldNames fields then
    match Json.lookup placeField fields with
    | none => .ok (withFields fields)
    | some v => (Place.ofField env v).map fun place =>
      { withFields fields with storagePlace := place }
  else .error .mistyped

/-- Whether removable storage is preferred. -/
def prefersRemovable (c : Config) : Bool := c.preferRemovable.truthy

/-- The version of the platform. -/
def version (c : Config) : Version := .ofJson c.platformVersion

/-- The identity of the build. -/
def package (c : Config) : PackageId := .ofJson c.packageId

/-- The entries of the configured volumes. The entries of a text are its characters, those of an
object its names; other values have none. -/
def volumeEntries (c : Config) : Except Failure (List Json) :=
  match c.volumes with
  | .arr items => .ok items
  | .obj fields => .ok (fields.map fun f => .str f.1)
  | .str s => .ok (s.toList.map fun ch => .str (String.ofList [ch]))
  | _ => .error .mistyped

end Config

end BackupLocator
