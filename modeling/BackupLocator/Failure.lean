import BackupLocator.Path
import BackupLocator.Text.Quoted

/-!
# Failures

Why an operation gives no result. A failure is its cause; the text shown to a person is computed
from it. Causes without a text are faults of the input that only their kind describes.
-/

namespace BackupLocator

/-- Why the file system refuses. -/
inductive Errno where
  | noEntry
  | alreadyExists
  | notDirectory
  | isDirectory
  | noSpace
  | nameTooLong
  | tooManyLinks
  deriving DecidableEq, Repr

namespace Errno

/-- The number of an error. -/
def code : Errno → Nat
  | .noEntry => 2
  | .alreadyExists => 17
  | .notDirectory => 20
  | .isDirectory => 21
  | .noSpace => 28
  | .nameTooLong => 36
  | .tooManyLinks => 40

/-- The words for an error. -/
def text : Errno → String
  | .noEntry => "No such file or directory"
  | .alreadyExists => "File exists"
  | .notDirectory => "Not a directory"
  | .isDirectory => "Is a directory"
  | .noSpace => "No space left on device"
  | .nameTooLong => "File name too long"
  | .tooManyLinks => "Too many levels of symbolic links"

end Errno

/-- A refusal of the file system, and the path that was asked for. -/
structure SystemError where
  errno : Errno
  path : Path
  deriving DecidableEq

/-- The text of a refusal. -/
def SystemError.message (e : SystemError) : String :=
  s!"[Errno {e.errno.code}] {e.errno.text}: " ++ Text.Quoted.write e.path.text

/-- Why a directory handle leads to no directory. -/
inductive HandleFault where
  /-- There is no handle. -/
  | missing
  /-- The handle names a volume that is not known. -/
  | unknownVolume (volume handle : String)
  /-- The handle leaves its volume. -/
  | escapes (volume handle : String)
  /-- There is no directory where the handle leads. -/
  | inaccessible (handle : String) (path : Path)
  /-- The platform gives a reason of its own. -/
  | reported (message : String)
  deriving DecidableEq

namespace HandleFault

/-- The text of a fault. -/
def message : HandleFault → String
  | .missing => "No directory handle provided"
  | .unknownVolume volume handle => s!"Handle refers to unknown volume '{volume}': {handle}"
  | .escapes volume handle => s!"Handle path escapes volume '{volume}': {handle}"
  | .inaccessible handle path =>
    s!"Directory for handle {handle} is not accessible: " ++ path.text
  | .reported message => message

/-- What the platform notes when it finds a fault. -/
def warning? : HandleFault → Option String
  | .missing => none
  | .unknownVolume volume handle => some s!"Unknown volume '{volume}' in handle {handle}"
  | .escapes volume handle => some s!"Handle {handle} points outside volume '{volume}'"
  | .inaccessible handle path =>
    some (s!"Handle {handle} points to missing directory " ++ path.text)
  | .reported _ => none

end HandleFault

/-- Why an operation gives no result. -/
inductive Failure where
  /-- The platform has no default storage. -/
  | noStorage
  /-- Storage that has to be written to is not writable. -/
  | notWritable (path : Path)
  /-- A backup directory could not be made. -/
  | notCreated (path : Path) (cause : SystemError)
  /-- A directory handle leads to no directory. -/
  | badHandle (fault : HandleFault)
  /-- The file system refuses. -/
  | system (e : SystemError)
  /-- A name is not in the table where it was looked up. -/
  | unknownName (name : String)
  /-- A value is not of the kind that is needed. -/
  | mistyped
  /-- A value is of the right kind and cannot be read. -/
  | malformed
  /-- A value does not have what is asked of it. -/
  | unsupported
  /-- No home directory is known. -/
  | homeless
  /-- A text is not JSON. -/
  | notJson
  /-- A JSON text is nested too deep. -/
  | tooDeep
  /-- Bytes are not text. -/
  | notText
  /-- A position lies outside its list. -/
  | outOfRange
  /-- A number is too great, or too small, for what it is to stand for. -/
  | outOfBounds
  /-- A closing tag closes nothing, or a tag cannot be read. -/
  | badMarkup
  /-- A value cannot be shown in a table. -/
  | notShown
  deriving DecidableEq

namespace Failure

/-- Whether a failure says that storage is not available. -/
def isUnavailable : Failure → Bool
  | .noStorage => true
  | .notWritable _ => true
  | _ => false

/-- The text of a failure, where it has one. -/
def message? : Failure → Option String
  | .noStorage => some "No external storage root available"
  | .notWritable path => some ("Storage is not writable: " ++ path.text)
  | .notCreated path cause =>
    some ("Unable to create backup directory " ++ path.text ++ ": " ++ cause.message)
  | .badHandle fault => some fault.message
  | .system e => some e.message
  | .unknownName name => some name
  | _ => none

end Failure

end BackupLocator
