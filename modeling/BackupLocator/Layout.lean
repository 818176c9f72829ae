import BackupLocator.Failure
import BackupLocator.Json

/-!
# The layout of backups

Where backups lie below a storage root. An application root holds one directory for each category,
and a variant of the application has a directory of its own inside it:

* `root/Signal/category/variant` where storage is reached by plain paths,
* `chosen/category/variant` below a directory that the user has chosen.

Nothing here asks the file system.
-/

namespace BackupLocator

/-- What a backup is. -/
inductive Category where
  | full
  | plaintext
  | legacy
  deriving DecidableEq, Repr

namespace Category

/-- The name of a category's directory. -/
def directory : Category → String
  | .full => "FullBackups"
  | .plaintext => "PlaintextBackups"
  | .legacy => "Backups"

/-- The category that a tag stands for. -/
def ofTag : String → Except Failure Category
  | "full" => .ok .full
  | "plaintext" => .ok .plaintext
  | "legacy" => .ok .legacy
  | tag => .error (.unknownName tag)

end Category

/-- The identity of a build of the application. -/
inductive PackageId where
  | unset
  | named (id : String)
  /-- A value that is not a text. -/
  | malformed
  deriving DecidableEq

namespace PackageId

/-- The identity of the production build. -/
def production : String := "org.thoughtcrime.securesms"

/-- The identity that a configured value stands for. Every value that counts as false is unset. -/
def ofJson : Json → PackageId
  | .str s => .named s
  | v => if v.truthy then .malformed else .unset

/-- What follows the identity of the production build and a point, if it is not empty. -/
def variantOf (id : String) : Option String :=
  let start := (production ++ ".").toList
  let rest := id.toList.drop start.length
  if start.isPrefixOf id.toList ∧ rest ≠ [] then some (String.ofList rest) else none

/-- The variant of an identity; the production build and foreign builds have none. -/
def variant : PackageId → Except Failure (Option String)
  | .unset => .ok none
  | .named id => .ok (variantOf id)
  | .malformed => .error .unsupported

end PackageId

namespace Layout

/-- The directory of the application on a storage root. -/
def applicationName : String := "Signal"

/-- The name of a directory of backups. -/
def backupsName : String := "Backups"

/-- The application root on a storage root that is reached by plain paths. -/
def legacyRoot (root : Path) : Path := root.child applicationName

/-- The application root for a chosen directory. A directory `Backups` stands for its parent, so
that no category lies below it. -/
def handleRoot (chosen : Path) : Path :=
  if chosen.name = backupsName then chosen.parent else chosen

/-- The directory of a category below an application root. -/
def withCategory (root : Path) (category : Category) : Path := root.child category.directory

/-- The directory of a variant inside another one. -/
def withVariant (package : PackageId) (p : Path) : Except Failure Path :=
  package.variant.map fun
    | none => p
    | some variant => p.child variant

/-- The directory of a category's backups below an application root. -/
def backupPath (package : PackageId) (root : Path) (category : Category) : Except Failure Path :=
  withVariant package (withCategory root category)

/-- The directory of an older layout on a storage root, which had the variant in the place of the
application. -/
def flattenedRoot (package : PackageId) (root : Path) : Except Failure Path :=
  package.variant.map fun
    | none => legacyRoot root
    | some variant => root.child variant

end Layout

end BackupLocator
