import BackupLocator.FileSystem.Directory
import BackupLocator.Platform

/-!
# Sessions

A session is what lasts from one operation to the next: the file system, the default root as it is
remembered, and a journal of what was asked and noted. An action runs on a session; what it has
done stays done where it fails.
-/

namespace BackupLocator

/-- How much a note matters. -/
inductive Level where
  | debug
  | info
  | warning
  | error
  deriving DecidableEq, Repr

/-- Who notes something. -/
inductive Component where
  | platform
  | resolver
  | selector
  | store
  deriving DecidableEq, Repr

/-- A line for the log. -/
structure Note where
  level : Level
  component : Component
  text : String
  deriving DecidableEq

/-- What happens in the course of an operation. -/
inductive Event where
  /-- The platform was asked for its default root. -/
  | defaultRoot (answer : Except Failure (Option StorageRoot))
  /-- The platform was asked for its removable roots. -/
  | externalRoots
  /-- The platform was asked for the description of a volume. -/
  | description (volume : String)
  /-- The platform was asked for the directory of a handle. -/
  | handlePath (handle : String)
  /-- A path was found writable or not. -/
  | checked (path : Path) (writable : Bool)
  /-- Something was noted. -/
  | noted (note : Note)

/-- What lasts from one operation to the next. The journal has the latest event first. -/
structure Session where
  files : FileSystem
  memo : Option Site
  journal : List Event

namespace Session

/-- The session at the beginning. -/
def start (fs : FileSystem) : Session := ⟨fs, none, []⟩

/-- The notes of a journal, the earliest first. -/
def notes (s : Session) : List Note :=
  s.journal.reverse.filterMap fun
    | .noted n => some n
    | _ => none

end Session

/-- A piece of work on a session. -/
def Action (α : Type) : Type := Session → Except Failure α × Session

namespace Action

/-- The result of an action on a session, and the session behind it. -/
def run {α : Type} (x : Action α) (s : Session) : Except Failure α × Session := x s

/-- The action that gives a value and does nothing. -/
protected def pure {α : Type} (a : α) : Action α := fun s => (.ok a, s)

/-- The action that goes on with the value of another, unless that fails. -/
protected def bind {α β : Type} (x : Action α) (f : α → Action β) : Action β := fun s =>
  match x s with
  | (.ok a, s') => f a s'
  | (.error e, s') => (.error e, s')

instance : Monad Action where
  pure := Action.pure
  bind := Action.bind

/-- The action that fails. -/
def fail {α : Type} (e : Failure) : Action α := fun s => (.error e, s)

/-- The action that gives what is there already. -/
def ofExcept {α : Type} : Except Failure α → Action α
  | .ok a => pure a
  | .error e => fail e

@[simp]
theorem run_pure {α : Type} (a : α) (s : Session) : (pure a : Action α).run s = (.ok a, s) := rfl

@[simp]
theorem run_fail {α : Type} (e : Failure) (s : Session) :
    (fail e : Action α).run s = (.error e, s) := rfl

theorem run_bind_ok {α β : Type} {x : Action α} {f : α → Action β} {s s' : Session} {a : α}
    (h : x.run s = (.ok a, s')) : (x >>= f).run s = (f a).run s' := by
  simp only [run, bind, Action.bind] at h ⊢
  rw [h]

theorem run_bind_error {α β : Type} {x : Action α} {f : α → Action β} {s s' : Session}
    {e : Failure} (h : x.run s = (.error e, s')) : (x >>= f).run s = (.error e, s') := by
  simp only [run, bind, Action.bind] at h ⊢
  rw [h]

/-! ## The journal -/

/-- An event enters the journal. -/
def record (e : Event) : Action Unit := fun s => (.ok (), { s with journal := e :: s.journal })

/-- Something is noted. -/
def note (level : Level) (component : Component) (text : String) : Action Unit :=
  record (.noted ⟨level, component, text⟩)

/-! ## The memo -/

/-- The default root as it is remembered. -/
def memo : Action (Option Site) := fun s => (.ok s.memo, s)

/-- The default root is remembered, or forgotten. -/
def setMemo (m : Option Site) : Action Unit := fun s => (.ok (), { s with memo := m })

/-! ## Questions to the platform -/

/-- The default root of a platform. -/
def askDefaultRoot (p : Platform) : Action (Option StorageRoot) := do
  record (.defaultRoot p.defaultRoot)
  ofExcept p.defaultRoot

/-- The removable roots of a platform. -/
def askExternalRoots (p : Platform) : Action (List (Option StorageRoot)) := fun s =>
  (p.externalRoots s.files, { s with journal := .externalRoots :: s.journal })

/-- The description of a volume. -/
def askDescription (p : Platform) (volume : String) : Action Json := do
  record (.description volume)
  ofExcept (p.description volume)

/-- What the platform notes about a failure. -/
def noteFailure : Failure → Action Unit
  | .badHandle fault =>
    match fault.warning? with
    | some text => note .warning .platform text
    | none => pure ()
  | _ => pure ()

/-- The directory of a handle. -/
def askHandlePath (p : Platform) (handle : String) : Action Path := fun s =>
  let asked := { s with journal := .handlePath handle :: s.journal }
  match p.handlePath s.files handle with
  | .ok path => (.ok path, asked)
  | .error e => (do noteFailure e; fail e : Action Path) asked

/-! ## Work on the file system -/

/-- Whether a path is a directory. -/
def isDirectory (path : Path) : Action Bool := fun s => (s.files.isDirectory path, s)

/-- Whether a path is a directory that may be written to. -/
def canWrite (path : Path) : Action Bool := fun s =>
  match s.files.canWrite path with
  | .ok writable => (.ok writable, { s with journal := .checked path writable :: s.journal })
  | .error e => (.error e, s)

/-- A directory is made. -/
def makeDirectory (path : Path) (parents existOk : Bool) : Action Unit := do
  note .debug .store ("Creating directory " ++ path.text)
  fun s =>
    let (result, files) := s.files.makeDirectory path parents existOk
    (result, { s with files })

end Action

end BackupLocator
