import BackupLocator.FileSystem.Directory
import BackupLocator.FileSystem.File

/-!
# Changes from outside

What others do to a file system between two operations. A change that cannot be made leaves all as
it is. The listing names what stands below a directory.
-/

namespace BackupLocator

/-- A change of a file system. -/
inductive Change where
  /-- A directory and its parents. -/
  | directory (p : Path)
  /-- A file and its parents. -/
  | file (p : Path) (content : List UInt8)
  /-- A link. -/
  | link (p : Path) (target : Target)
  /-- An entry is taken away, with all below it. -/
  | remove (p : Path)
  /-- An entry gets another path, with all below it. -/
  | rename (p q : Path)
  /-- The paths to which writing is refused are now these. -/
  | deny (ps : List Path)
  /-- The paths for which there is no room are now these. -/
  | fill (ps : List Path)

namespace FileSystem

/-- The file system without an entry and all below it. -/
def prune (fs : FileSystem) (loc : Location) : FileSystem :=
  { fs with entries := fs.entries.filter fun x => !loc.isSuffixOf x.1 }

/-- The file system with the entry at `source`, and all below it, at `target`. -/
def move (fs : FileSystem) (source target : Location) : FileSystem :=
  let rest := (fs.prune target).entries
  { fs with entries := rest.map fun x =>
      if source.isSuffixOf x.1 then (x.1.take (x.1.length - source.length) ++ target, x.2) else x }

/-- The file system with a directory and its parents, whether there is room or not. -/
def force (fs : FileSystem) (p : Path) : FileSystem :=
  { (({ fs with full := [] }).makeDirectory p true true).2 with full := fs.full }

/-- The file system after a change. -/
def apply (fs : FileSystem) : Change → FileSystem
  | .directory p => fs.force p
  | .file p content =>
    let fs := fs.force p.parent
    match fs.write p content with
    | .ok fs' => fs'
    | .error _ => fs
  | .link p target =>
    match fs.locate .atEntry p with
    | .ok (.free dir name) => fs.add (name :: dir) (.link target)
    | _ => fs
  | .remove p =>
    match fs.locate .atEntry p with
    | .ok (.taken loc) => if loc = [] then fs else fs.prune loc
    | _ => fs
  | .rename p q =>
    match fs.locate .atEntry p, fs.locate .atEntry q with
    | .ok (.taken source), .ok (.taken target) =>
      if source = target ∨ source = [] ∨ target = [] then fs else fs.move source target
    | .ok (.taken source), .ok (.free dir name) => fs.move source (name :: dir)
    | _, _ => fs
  | .deny ps => { fs with denied := ps.map fs.absolute }
  | .fill ps => { fs with full := ps.map fs.absolute }

/-- The texts of the locations below a directory, as seen from it. -/
def listing (fs : FileSystem) (base : Location) : List String :=
  (fs.entries.filter fun x => base.isSuffixOf x.1 && x.1.length != base.length).map fun x =>
    let names := (x.1.take (x.1.length - base.length)).reverse
    String.ofList (Text.joinWith '/' (names.map String.toList))

/-- What stands below a directory in `after` and did not in `before`, in order. -/
def created (base : Location) (before after : FileSystem) : List String :=
  let known := before.listing base
  ((after.listing base).filter fun s => !known.contains s).mergeSort fun s t => decide (s ≤ t)

end FileSystem

end BackupLocator
