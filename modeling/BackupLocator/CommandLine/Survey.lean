import BackupLocator.CommandLine

/-!
# Surveys

Before a command runs on real storage, the part of it that the command can ask about is looked at.
A survey names that part: every directory that can be a storage root, and all that the layout can
put below it.
-/

namespace BackupLocator.CommandLine

/-- The paths of the places where a configuration says that storage lies. -/
def storagePlaces (c : Config) : List Path :=
  let mounts := (c.volumeEntries.toOption.getD []).filterMap fun entry =>
    match Platform.Local.fieldsOf entry with
    | .ok fields => (Platform.Local.pathOf ((Json.lookup "path" fields).getD .null)).toOption
    | .error _ => none
  match c.storagePlace.path? with
  | .ok (some p) => p :: mounts
  | _ => mounts

/-- The path of a handle, whether there is a directory or not. -/
def handlePlaces (c : Config) (handle : String) : List Path :=
  match Handle.documentId handle with
  | .ok id => (storagePlaces c).map fun p => p.child (Handle.relativePath id)
  | .error _ => []

/-- All that the layout can put below a directory. -/
def layoutBelow (package : PackageId) (p : Path) : List Path :=
  let variants (q : Path) := match Layout.withVariant package q with
    | .ok r => [q, r]
    | .error _ => [q]
  variants p ++ [Category.full, .plaintext, .legacy].flatMap fun category =>
    variants (Layout.withCategory p category)

/-- What a command can ask about. -/
def survey (c : Config) (command : Command) : List Path :=
  let handles := match command with
    | .resolve _ (some handle) _ _ => handlePlaces c handle
    | _ => []
  (storagePlaces c ++ handles).flatMap fun p =>
    [p, p.parent, Layout.legacyRoot p].flatMap (layoutBelow c.package)

/-- What a command line can ask about, as far as its configuration can be read. -/
def surveyOf (env : Environment) (fs : FileSystem) (i : Invocation) : List Path :=
  match Config.ofSources env fs i.file i.overrides, readCommand i.command i.words with
  | .ok c, .ok command => survey c command
  | _, _ => []

end BackupLocator.CommandLine
