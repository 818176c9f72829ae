import BackupLocator.FileSystem

/-!
# Making directories

A directory is made directly where its parent is one. With parents, a missing parent is made
first, in the same way, and then the directory is tried once more. What has been made stays, also
where a later step fails.
-/

namespace BackupLocator.FileSystem

/-- The file system with one more directory, at a free name of a directory that has room. -/
def makeOne (fs : FileSystem) (p : Path) : Except Failure FileSystem :=
  if p.hasNul then .error .malformed
  else match fs.locate .atEntry p with
    | .error e => .error (.system ⟨e, p⟩)
    | .ok (.taken _) => .error (.system ⟨.alreadyExists, p⟩)
    | .ok (.free dir name) =>
      if fs.full.contains (fs.absolute p) then .error (.system ⟨.noSpace, p⟩)
      else .ok (fs.add (name :: dir) .directory)

/-- Whether a failure says that something on the way is missing. -/
def isMissing : Failure → Bool
  | .system e => e.errno = .noEntry
  | _ => false

/-- The answer to a refusal: with `existOk` it is no failure where there is a directory already.
-/
def excuse (fs : FileSystem) (existOk : Bool) (p : Path) (e : Failure) : Except Failure Unit :=
  match e with
  | .system _ =>
    if existOk && !isMissing e then
      match fs.isDirectory p with
      | .ok true => .ok ()
      | .ok false => .error e
      | .error probeFailure => .error probeFailure
    else .error e
  | _ => .error e

/-- One attempt at a directory. -/
def makeLeaf (fs : FileSystem) (existOk : Bool) (p : Path) : Except Failure Unit × FileSystem :=
  match fs.makeOne p with
  | .ok fs' => (.ok (), fs')
  | .error e => (fs.excuse existOk p e, fs)

/-- A directory, with up to `levels` missing parents. The stack limit is left out: one call inside
another for each missing parent fails at about 990 of them on a stack of 1000 calls, the sooner the
deeper the caller stands, while here any number of parents is made. -/
def makeWithin (levels : Nat) (existOk : Bool) (fs : FileSystem) (p : Path) :
    Except Failure Unit × FileSystem :=
  match levels with
  | 0 => fs.makeLeaf existOk p
  | levels + 1 =>
    match fs.makeOne p with
    | .ok fs' => (.ok (), fs')
    | .error e =>
      if isMissing e then
        match makeWithin levels true fs p.parent with
        | (.ok (), fs') => fs'.makeLeaf existOk p
        | (.error e', fs') => (.error e', fs')
      else (fs.excuse existOk p e, fs)

/-- The directory `p` is made, with `parents` its missing parents too; with `existOk` a directory
that is there already is fine. -/
def makeDirectory (fs : FileSystem) (p : Path) (parents existOk : Bool) :
    Except Failure Unit × FileSystem :=
  makeWithin (if parents then p.parts.length else 0) existOk fs p

end BackupLocator.FileSystem
