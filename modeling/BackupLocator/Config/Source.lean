import BackupLocator.Config.Environment
import BackupLocator.Config.File

/-!
# The configuration of a command

A command is configured by a file that is named for it, or else by the environment. Two fields can
be overridden. A file that is named must be there.
-/

namespace BackupLocator.Config

/-- Why a command has no configuration. -/
inductive SourceFailure where
  /-- There is no file of the name. -/
  | notFound (file : String)
  | failed (e : Failure)
  deriving DecidableEq

/-- What is overridden for a command. -/
structure Overrides where
  version : Option Int
  package : Option String
  deriving DecidableEq

/-- The configuration with fields overridden. An empty identity of the build overrides nothing. -/
def Overrides.apply (o : Overrides) (c : Config) : Config :=
  let c := match o.version with
    | some n => { c with platformVersion := .int n }
    | none => c
  match o.package.filter (· ≠ "") with
  | some id => { c with packageId := .str id }
  | none => c

/-- The variable that names a configuration file. -/
def fileVariable : String := "BACKUPDIR_CONFIG"

/-- The file that is named for a command: by an argument, or else by a variable. Empty names name
nothing. -/
def namedFile (env : Environment) (argument : Option String) : Option String :=
  (argument.filter (· ≠ "")).or (env.nonEmpty? fileVariable)

/-- The configuration in a file that must be there. -/
def loadNamed (fs : FileSystem) (file : String) : Except SourceFailure Config :=
  match fs.isPresent (.ofText file) with
  | .error e => .error (.failed e)
  | .ok false => .error (.notFound file)
  | .ok true => (load fs (.ofText file)).mapError .failed

/-- The configuration of a command. -/
def ofSources (env : Environment) (fs : FileSystem) (argument : Option String)
    (o : Overrides) : Except SourceFailure Config :=
  let base := match namedFile env argument with
    | some file => loadNamed fs file
    | none => (ofEnvironment env).mapError .failed
  base.map o.apply

end BackupLocator.Config
