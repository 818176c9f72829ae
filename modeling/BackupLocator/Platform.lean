import BackupLocator.FileSystem
import BackupLocator.StorageModel
import BackupLocator.StorageRoot

/-!
# Platforms

What a platform says about its storage. It may answer differently each time it is asked; a value
of this type is what it says at one moment.
-/

namespace BackupLocator

/-- The answers of a platform. -/
structure Platform where
  version : Version
  /-- The root of the default storage, if there is one. -/
  defaultRoot : Except Failure (Option StorageRoot)
  /-- The roots of removable storage, in the platform's order. A missing root is a volume that is
  not available at the moment. -/
  externalRoots : FileSystem → Except Failure (List (Option StorageRoot))
  /-- The description of a volume; null where there is none. -/
  description : String → Except Failure Json
  /-- The directory that a handle stands for. -/
  handlePath : FileSystem → String → Except Failure Path

end BackupLocator
