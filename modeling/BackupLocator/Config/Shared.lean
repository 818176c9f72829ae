import BackupLocator.Config.Environment
import BackupLocator.Config.File

/-!
# The shared configuration

One configuration can be shared by all who ask for it. It comes from the configuration file, and
from the environment where the file cannot be used. Configurations are numbered as they come, for
a change to one is seen by all who hold that one and by nobody else.
-/

namespace BackupLocator

/-- The configurations that there are, the one at hand, and the shared one. -/
structure ConfigStore where
  configs : List Config
  current : Option Nat
  shared : Option Nat

namespace ConfigStore

/-- No configuration at all. -/
def empty : ConfigStore := ⟨[], none, none⟩

/-- The configuration at hand. -/
def config? (s : ConfigStore) : Option Config :=
  s.current.bind fun n => s.configs[n]?

/-- One more configuration, which is now at hand. -/
def push (s : ConfigStore) (c : Config) : ConfigStore :=
  { s with configs := s.configs ++ [c], current := some s.configs.length }

/-- A change to the configuration at hand. -/
def modify (s : ConfigStore) (f : Config → Config) : ConfigStore :=
  match s.current with
  | some n => { s with configs := s.configs.modify n f }
  | none => s

/-- The configuration at hand is shared; without one, none is. -/
def share (s : ConfigStore) : ConfigStore := { s with shared := s.current }

/-- No configuration is shared. -/
def unshare (s : ConfigStore) : ConfigStore := { s with shared := none }

/-- Whether the environment serves where a file could not be used for this reason: the system
refused it, it is no text, or its values are not right. -/
def isRecoverable : Failure → Bool
  | .system _ => true
  | .malformed => true
  | .mistyped => true
  | .notJson => true
  | .notText => true
  | _ => false

/-- The configuration to be shared: that of a file, or that of the environment. -/
def sharedConfig (env : Environment) (fs : FileSystem) (file : Path) : Except Failure Config :=
  match Config.load fs file with
  | .ok c => .ok c
  | .error e => if isRecoverable e then Config.ofEnvironment env else .error e

/-- The shared configuration is now at hand; it is found if there is none yet. -/
def takeShared (s : ConfigStore) (env : Environment) (fs : FileSystem) (file : Path) :
    Except Failure ConfigStore :=
  match s.shared with
  | some n => .ok { s with current := some n }
  | none => (sharedConfig env fs file).map fun c => (s.push c).share

end ConfigStore

end BackupLocator
