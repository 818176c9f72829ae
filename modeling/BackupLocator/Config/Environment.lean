import BackupLocator.Config
import BackupLocator.Text.WholeNumber

/-!
# Configurations from the environment

Each of four variables, where it is set and not empty, says one field; the other fields keep what
is configured where nothing is said.
-/

namespace BackupLocator.Config

/-- The variable for the version of the platform. -/
def versionVariable : String := "BACKUPDIR_PLATFORM_VERSION"

/-- The variable for the identity of the build. -/
def packageVariable : String := "BACKUPDIR_PACKAGE_ID"

/-- The variable for the preference for removable storage. -/
def preferenceVariable : String := "BACKUPDIR_PREFER_REMOVABLE"

/-- The variable for the place of the default storage. -/
def placeVariable : String := "BACKUPDIR_EXTERNAL_STORAGE"

/-- Whether a text says yes. Blanks around it and the case of its letters do not count. -/
def saysYes (s : String) : Bool :=
  let word := String.ofList ((Text.trim Text.isBlank s.toList).map Char.toLower)
  ["1", "true", "yes", "on"].contains word

/-- A configuration with one field said by a variable, if the variable is set and not empty. -/
def withVariable (env : Environment) (name : String)
    (say : Config → String → Except Failure Config) (c : Config) : Except Failure Config :=
  match env.nonEmpty? name with
  | some text => say c text
  | none => .ok c

/-- The version of the platform is said by a whole number. -/
def sayVersion (c : Config) (text : String) : Except Failure Config :=
  match Text.WholeNumber.read? text.toList with
  | some n => .ok { c with platformVersion := .int n }
  | none => .error .malformed

/-- The identity of the build is said by any text. -/
def sayPackage (c : Config) (text : String) : Except Failure Config :=
  .ok { c with packageId := .str text }

/-- The preference is said by a word for yes, or any other text. -/
def sayPreference (c : Config) (text : String) : Except Failure Config :=
  .ok { c with preferRemovable := .bool (saysYes text) }

/-- The place of the default storage is said by a path, which may begin at a home directory. -/
def sayPlace (env : Environment) (c : Config) (text : String) : Except Failure Config :=
  (Path.ofHomeText env text).map fun p => { c with storagePlace := .path p }

/-- The configuration that the environment says. -/
def ofEnvironment (env : Environment) : Except Failure Config := do
  let c ← withVariable env versionVariable sayVersion default
  let c ← withVariable env packageVariable sayPackage c
  let c ← withVariable env preferenceVariable sayPreference c
  withVariable env placeVariable (sayPlace env) c

end BackupLocator.Config
