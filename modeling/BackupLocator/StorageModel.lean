import BackupLocator.Failure
import BackupLocator.Json

/-!
# Storage models

The version of a platform decides how its storage is reached: by plain paths below version 30, by
the handles of directories from then on. From version 19 on a platform can have several volumes.
-/

namespace BackupLocator

/-- The version of a platform. -/
inductive Version where
  | whole (n : Int)
  | real (x : Binary64)
  /-- A value that does not compare with a number. -/
  | incomparable
  deriving DecidableEq

namespace Version

/-- The version that a configured value stands for. Truth values count as 0 and 1. -/
def ofJson : Json → Version
  | .int n => .whole n
  | .float x => .real x
  | .bool b => .whole (if b then 1 else 0)
  | _ => .incomparable

/-- How a version compares with a number; what is no number compares with none. -/
def compareWith (v : Version) (n : Int) : Except Failure (Option Ordering) :=
  match v with
  | .whole m => .ok (some (compare m n))
  | .real x => .ok (x.compareInt n)
  | .incomparable => .error .mistyped

/-- The first version that is reached by handles. -/
def firstScoped : Int := 30

/-- The first version that can have several volumes. -/
def firstMultiVolume : Int := 19

/-- Whether a version can have several volumes. -/
def hasManyVolumes (v : Version) : Except Failure Bool :=
  (v.compareWith firstMultiVolume).map fun o => o = some .eq ∨ o = some .gt

end Version

/-- How storage is reached. -/
inductive StorageModel where
  /-- By plain paths. -/
  | legacy
  /-- By the handles of directories. -/
  | scoped
  deriving DecidableEq, Repr

namespace StorageModel

/-- The name of a model. -/
def name : StorageModel → String
  | .legacy => "legacy"
  | .scoped => "scoped_handle"

/-- The model of a version. -/
def ofVersion (v : Version) : Except Failure StorageModel :=
  (v.compareWith Version.firstScoped).map fun o => if o = some .lt then .legacy else .scoped

end StorageModel

end BackupLocator
