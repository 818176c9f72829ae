import BackupLocator.CommandLine.Invocation
import BackupLocator.CommandLine.Report
import BackupLocator.Label
import BackupLocator.Platform.Local
import BackupLocator.Selector

/-!
# The command line

Four commands: one finds and makes a backup directory, one shows the label of a handle, one lists
the volumes, and one checks the default storage. Each runs in a session of its own on the platform
of its configuration.
-/

namespace BackupLocator.CommandLine

/-- How a run ends. -/
inductive Outcome where
  /-- The words were not understood. -/
  | usage
  /-- Help was asked for. -/
  | help
  /-- A failure that no command expects. -/
  | crashed (e : Failure)
  | finished (r : Report)
  deriving DecidableEq

/-- The number that a run ends with. -/
def Outcome.exitCode : Outcome → Nat
  | .usage => 2
  | .help => 0
  | .crashed _ => 1
  | .finished r => r.exitCode

/-- What a command gives: the number it ends with, and what it prints. -/
abbrev Result := Nat × Screen

/-! ## Commands -/

/-- The resolver of a configuration. -/
def resolverOf (c : Config) : Resolver := ⟨.ofConfig c, c.package, c.sortCandidates.truthy⟩

/-- The directory of a target. -/
def targetDirectory (c : Config) (target : Target) (handle : Option String)
    (preferRemovable : Bool) : Action ResolvedDirectory :=
  match target with
  | .full => (resolverOf c).fullDirectory handle preferRemovable
  | .plaintext => (resolverOf c).plaintextDirectory handle preferRemovable
  | .legacy => (resolverOf c).legacyDirectory
  | .legacyRoot => (resolverOf c).legacyRootDirectory preferRemovable

/-- What is printed where there is no directory. -/
def reportFailure (e : Failure) : Action Result :=
  match failureLines? e with
  | some lines => do
    let text ← Action.ofExcept (printLines lines)
    return (1, .text text)
  | none => Action.fail e

/-- A directory is found and made. -/
def resolve (c : Config) (target : Target) (handle : Option String) (removable : Option Bool)
    (asJson : Bool) : Action Result := fun s =>
  let prefer := removable.getD c.prefersRemovable
  match (targetDirectory c target handle prefer).run s with
  | (.ok d, s') => ((directoryText d asJson).map fun text => (0, .text text), s')
  | (.error e, s') => reportFailure e s'

/-- The label of a handle is shown. -/
def display (c : Config) (handle : String) : Except Failure Result :=
  (Label.ofHandle (Platform.ofConfig c).description none handle).map fun label =>
    (0, .text (Terminal.echoed label ++ "\n"))

/-- The cells of the default storage. -/
def defaultCells (fs : FileSystem) (root : StorageRoot) : Except Failure (List Json) := do
  let path := root.path.getD default
  let mounted ← fs.isDirectory path
  return [.str Platform.Local.primaryTag, root.description, .str path.text, yesNo false,
    yesNo mounted]

/-- Whether there is a directory where a value says that a volume lies. -/
def isMounted (fs : FileSystem) (mount : Json) : Except Failure Bool := do
  if mount.truthy then fs.isDirectory (← Platform.Local.pathOf mount) else return false

/-- The cells of a volume. -/
def volumeCells (fs : FileSystem) (entry : Json) : Except Failure (List Json) := do
  let fields ← Platform.Local.fieldsOf entry
  let field (name : String) := (Json.lookup name fields).getD (.str "")
  let mount := field "path"
  let removable := Platform.Local.isRemovable fields &&
    !marksEmulated (String.ofList mount.shown)
  let mounted ← isMounted fs mount
  return [field "uuid", field "description", mount, yesNo removable, yesNo mounted]

/-- The volumes are listed, the default storage first. -/
def volumes (c : Config) (fs : FileSystem) : Except Failure Result := do
  let first ← match ← Platform.Local.defaultRoot c with
    | some root => (defaultCells fs root).map fun cells => [cells]
    | none => .ok []
  let others ← (← c.volumeEntries).mapM (volumeCells fs)
  let table ← volumeTable (first ++ others)
  return (0, .table table)

/-- The text for the place of the default storage. -/
def placeText (p : Place) : String := String.ofList p.toJson.shown

/-- The default storage is checked, and older backups on it are listed. -/
def check (c : Config) : Action Result := do
  if ← (resolverOf c).canWriteDefault then
    let first ← Action.ofExcept
      (printLines [goodMark ++ "Writable: " ++ placeText c.storagePlace])
    let candidates ← (resolverOf c).legacyReadCandidates
    let others ← Action.ofExcept
      (printLines (candidates.map fun p => "  Legacy backups: " ++ p.text))
    return (0, .text (first ++ others))
  else
    let text ← Action.ofExcept
      (printLines [badMark ++ "Not writable: " ++ placeText c.storagePlace])
    return (1, .text text)

/-- A command carried out. -/
def perform (c : Config) : Command → Action Result
  | .resolve target handle removable asJson => resolve c target handle removable asJson
  | .display handle => Action.ofExcept (display c handle)
  | .volumes => fun s => (volumes c s.files, s)
  | .check => check c

/-! ## Runs -/

/-- How a run ends whose words are refused. -/
def Outcome.ofRefusal : Refusal → Outcome
  | .usage => .usage
  | .help => .help
  | .failed e => .crashed e

/-- How a run ends that has no configuration. -/
def Outcome.ofSourceFailure : Config.SourceFailure → Outcome
  | .notFound file =>
    .finished ⟨1, .text "", Terminal.echoed ("Error: Config file not found: " ++ file) ++ "\n"⟩
  | .failed e => .crashed e

/-- How the run of a command ends, and the file system behind it. -/
def runCommand (c : Config) (fs : FileSystem) (verbose : Bool) (command : Command) :
    Outcome × FileSystem :=
  match (perform c command).run (.start fs) with
  | (.ok (exitCode, screen), s) => (.finished ⟨exitCode, screen, noteText verbose s.notes⟩, s.files)
  | (.error e, s) => (.crashed e, s.files)

/-- How the run of a command line ends, and the file system behind it. -/
def run (env : Environment) (fs : FileSystem) (words : List String) : Outcome × FileSystem :=
  match readInvocation words with
  | .error refusal => (.ofRefusal refusal, fs)
  | .ok i =>
    match Config.ofSources env fs i.file i.overrides with
    | .error failure => (.ofSourceFailure failure, fs)
    | .ok c =>
      match readCommand i.command i.words with
      | .error refusal => (.ofRefusal refusal, fs)
      | .ok command => runCommand c fs i.verbose command

end BackupLocator.CommandLine
