import BackupLocator.Failure
import BackupLocator.FileSystem.Target

/-!
# The file system

A tree of directories, files and links, kept as a list of entries by location. The root is always
a directory and has no entry of its own. Beside the tree stand the paths that the system refuses
to write to and the paths that it has no room for.
-/

namespace BackupLocator

/-- A place in the tree: the names that lead to it, innermost first. -/
abbrev Location := List String

/-- What stands at a place. -/
inductive Entry where
  | directory
  | file (content : List UInt8)
  | link (target : Target)
  deriving DecidableEq

/-- A file system, with the directory at which relative paths begin. -/
structure FileSystem where
  entries : List (Location × Entry)
  /-- An absolute path without links. -/
  workingDirectory : Path
  /-- Paths to which access for writing is refused, absolute and without `..`. -/
  denied : List Path
  /-- Paths for which there is no room, absolute and without `..`. -/
  full : List Path
  deriving DecidableEq

namespace FileSystem

/-- A file system that holds its root and nothing else. -/
def empty : FileSystem := ⟨[], .ofAnchor .root, [], []⟩

/-- What stands at a place, if anything does. -/
def find? (fs : FileSystem) : Location → Option Entry
  | [] => some .directory
  | name :: dir => fs.entries.lookup (name :: dir)

/-- The file system with one more entry. -/
def add (fs : FileSystem) (loc : Location) (e : Entry) : FileSystem :=
  { fs with entries := (loc, e) :: fs.entries }

@[simp]
theorem find?_nil (fs : FileSystem) : fs.find? [] = some .directory := rfl

theorem find?_add_self (fs : FileSystem) (name : String) (dir : Location) (e : Entry) :
    (fs.add (name :: dir) e).find? (name :: dir) = some e := by
  simp [find?, add]

theorem find?_add_ne (fs : FileSystem) {loc loc' : Location} (h : loc' ≠ loc) (e : Entry) :
    (fs.add loc e).find? loc' = fs.find? loc' := by
  cases loc' with
  | nil => rfl
  | cons name dir =>
    have hb : ((name :: dir) == loc) = false := by simpa using h
    simp [find?, add, List.lookup_cons, hb]

/-! ## Finding a place -/

/-- Where a path leads: to a place that holds something, or to a free name in a directory. -/
inductive Spot where
  | taken (loc : Location)
  | free (dir : Location) (name : String)
  deriving DecidableEq, Repr

/-- What a path is followed for. -/
inductive Aim where
  /-- For what stands at the path itself: a link at its end is not followed. -/
  | atEntry
  /-- For what it leads to. -/
  | throughLink
  /-- For a file that it leads to, which is made if it is missing. -/
  | forWriting
  deriving DecidableEq, Repr

/-- How far a walk along names comes without following a link. -/
inductive Reach where
  | spot (s : Spot)
  | link (dir : Location) (target : Target) (rest : List String)
  deriving DecidableEq

/-- The most bytes that a name may have. -/
def nameLimit : Nat := 255

/-- The least number of bytes that is too much for a path. -/
def pathLimit : Nat := 4096

/-- The most links that are followed on one path. -/
def linkLimit : Nat := 40

/-- A walk along names up to the first link that has to be followed. No file is made at a name with
a slash behind it. -/
def advance (fs : FileSystem) (aim : Aim) (loc : Location) : List String → Except Errno Reach
  | [] => if (fs.find? loc).isSome then .ok (.spot (.taken loc)) else .error .noEntry
  | name :: rest =>
    match fs.find? loc with
    | none => .error .noEntry
    | some .directory =>
      if Ending.isStay name then fs.advance aim loc rest
      else if aim = .forWriting ∧ rest = [Ending.slashName] then .error .isDirectory
      else if name = ".." then fs.advance aim (loc.drop 1) rest
      else if nameLimit < name.utf8ByteSize then .error .nameTooLong
      else
        match fs.find? (name :: loc) with
        | none => if rest = [] then .ok (.spot (.free loc name)) else .error .noEntry
        | some (.link target) =>
          if rest = [] ∧ aim = .atEntry then .ok (.spot (.taken (name :: loc)))
          else .ok (.link loc target rest)
        | some _ => fs.advance aim (name :: loc) rest
    | some _ => .error .notDirectory

/-- The place at which a path begins. -/
def start (dir : Location) (p : Path) : Location :=
  if p.isAbsolute then [] else dir

/-- A walk along names that follows links, as many as the budget allows. -/
def walk (fs : FileSystem) (aim : Aim) (budget : Nat) (loc : Location)
    (names : List String) : Except Errno Spot :=
  match fs.advance aim loc names with
  | .error e => .error e
  | .ok (.spot s) => .ok s
  | .ok (.link dir target rest) =>
    match budget with
    | 0 => .error .tooManyLinks
    | budget + 1 => fs.walk aim budget (start dir target.path) (target.names ++ rest)
termination_by structural budget

/-- Where a path leads. -/
def locate (fs : FileSystem) (aim : Aim) (p : Path) : Except Errno Spot :=
  if pathLimit ≤ p.byteCount then .error .nameTooLong
  else fs.walk aim linkLimit (start fs.workingDirectory.parts.reverse p) p.parts

/-- A path from the root on and without `..`, by its text alone. -/
def absolute (fs : FileSystem) (p : Path) : Path :=
  (fs.workingDirectory.join p).normal

/-! ## Asking -/

/-- What a probe of a path finds. A NUL, a missing entry, a file on the way and a loop of links
all mean that there is nothing; only a path or name that is too long is an error. -/
def probe (fs : FileSystem) (p : Path) : Except Failure (Option Entry) :=
  if p.hasNul then .ok none
  else match fs.locate .throughLink p with
    | .ok (.taken loc) => .ok (fs.find? loc)
    | .ok (.free _ _) => .ok none
    | .error .nameTooLong => .error (.system ⟨.nameTooLong, p⟩)
    | .error _ => .ok none

/-- Whether a path names something. -/
def isPresent (fs : FileSystem) (p : Path) : Except Failure Bool :=
  (fs.probe p).map (·.isSome)

/-- Whether a path names a directory. -/
def isDirectory (fs : FileSystem) (p : Path) : Except Failure Bool :=
  (fs.probe p).map (· = some .directory)

/-- Whether a path names a directory to which writing is not refused. -/
def canWrite (fs : FileSystem) (p : Path) : Except Failure Bool :=
  (fs.isDirectory p).map fun isDir => isDir && !fs.denied.contains (fs.absolute p)

end FileSystem

end BackupLocator
