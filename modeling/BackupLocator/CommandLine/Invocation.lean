import BackupLocator.CommandLine.Words
import BackupLocator.Config.Source

/-!
# Invocations

The words of a command line are options for all commands, the name of a command, and the words of
that command. The command's own words are read later, when its configuration is known to be good.
-/

namespace BackupLocator.CommandLine

/-- Why words are no invocation. -/
inductive Refusal where
  /-- The words are not understood. -/
  | usage
  /-- Help was asked for. -/
  | help
  | failed (e : Failure)
  deriving DecidableEq

/-! ## Options for all commands -/

/-- The options for all commands. -/
inductive GlobalOption where
  | config
  | version
  | package
  | verbose
  | help
  deriving DecidableEq

/-- How the options for all commands are written. -/
def globalForms : List (OptionForm GlobalOption) := [
  ⟨.config, ["--config"], ['c'], true⟩,
  ⟨.version, ["--platform-version"], [], true⟩,
  ⟨.package, ["--package-id"], [], true⟩,
  ⟨.verbose, ["--verbose"], ['v'], false⟩,
  ⟨.help, ["--help"], [], false⟩]

/-- The names of the commands. -/
inductive CommandName where
  | resolve
  | display
  | volumes
  | check
  deriving DecidableEq

/-- The command of a name. -/
def CommandName.ofText? : String → Option CommandName
  | "resolve" => some .resolve
  | "display" => some .display
  | "volumes" => some .volumes
  | "check" => some .check
  | _ => none

/-- What a command line says, the command's own words unread. -/
structure Invocation where
  file : Option String
  overrides : Config.Overrides
  verbose : Bool
  command : CommandName
  words : List String

/-- The version that is given, if it is a whole number. -/
def readVersion (r : ReadWords GlobalOption) : Option (Option Int) :=
  match r.last? .version with
  | none => some none
  | some text => (Text.WholeNumber.read? text.toList).map some

/-- Whether the file that is given holds a NUL. -/
def namesNul (r : ReadWords GlobalOption) : Bool :=
  (r.last? .config).any fun file => file.toList.contains '\x00'

/-- Whether the file is given before the version. -/
def isFileFirst (r : ReadWords GlobalOption) : Bool :=
  match r.options.find? fun o => o.1 = .config || o.1 = .version with
  | some (.config, _) => true
  | _ => false

/-- The version that is given, if the values of all options are right. Of two wrong values the one
that stands first counts. -/
def checkValues (r : ReadWords GlobalOption) : Except Refusal (Option Int) :=
  match readVersion r, namesNul r with
  | some version, false => .ok version
  | none, false => .error .usage
  | some _, true => .error (.failed .malformed)
  | none, true => .error (if isFileFirst r then .failed .malformed else .usage)

/-- The invocation that words make. -/
def readInvocation (words : List String) : Except Refusal Invocation := do
  match readWords globalForms false words with
  | none => .error .usage
  | some r =>
    if r.has .help then .error .help
    let version ← checkValues r
    match r.others with
    | [] => .error .usage
    | name :: words =>
      match CommandName.ofText? name with
      | none => .error .usage
      | some command =>
        return {
          file := r.last? .config
          overrides := ⟨version, r.last? .package⟩
          verbose := r.has .verbose
          command, words
        }

/-! ## Commands -/

/-- The directories that can be asked for. -/
inductive Target where
  | full
  | plaintext
  | legacy
  | legacyRoot
  deriving DecidableEq

/-- The target of a name. -/
def Target.ofText? : String → Option Target
  | "full" => some .full
  | "plaintext" => some .plaintext
  | "legacy" => some .legacy
  | "legacy-root" => some .legacyRoot
  | _ => none

/-- What a command is to do. -/
inductive Command where
  | resolve (target : Target) (handle : Option String) (removable : Option Bool) (asJson : Bool)
  | display (handle : String)
  | volumes
  | check
  deriving DecidableEq

/-- The options of the command that finds directories. -/
inductive ResolveOption where
  | handle
  | removable
  | internal
  | json
  | help
  deriving DecidableEq

/-- How the options of the command that finds directories are written. -/
def resolveForms : List (OptionForm ResolveOption) := [
  ⟨.handle, ["--handle"], ['H'], true⟩,
  ⟨.removable, ["--removable"], [], false⟩,
  ⟨.internal, ["--internal"], [], false⟩,
  ⟨.json, ["--json"], [], false⟩,
  ⟨.help, ["--help"], [], false⟩]

/-- How the option of the other commands is written. -/
def helpForms : List (OptionForm Unit) := [⟨(), ["--help"], [], false⟩]

/-- The preference that was given last. -/
def preference (r : ReadWords ResolveOption) : Option Bool :=
  r.options.foldl (fun p o => match o.1 with
    | .removable => some true
    | .internal => some false
    | _ => p) none

/-- The words of the command that finds directories. -/
def readResolve (words : List String) : Except Refusal Command :=
  match readWords resolveForms true words with
  | none => .error .usage
  | some r =>
    if r.has .help then .error .help
    else match r.others.map Target.ofText? with
      | [some target] => .ok (.resolve target (r.last? .handle) (preference r) (r.has .json))
      | _ => .error .usage

/-- The words of a command that are no options. -/
def readOthers (words : List String) : Except Refusal (List String) :=
  match readWords helpForms true words with
  | none => .error .usage
  | some r => if r.has () then .error .help else .ok r.others

/-- The command that its name and words make. -/
def readCommand (name : CommandName) (words : List String) : Except Refusal Command :=
  match name with
  | .resolve => readResolve words
  | .display => do
    match ← readOthers words with
    | [handle] => .ok (.display handle)
    | _ => .error .usage
  | .volumes => do
    match ← readOthers words with
    | [] => .ok .volumes
    | _ => .error .usage
  | .check => do
    match ← readOthers words with
    | [] => .ok .check
    | _ => .error .usage

end BackupLocator.CommandLine
