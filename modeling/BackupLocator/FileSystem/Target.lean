import BackupLocator.Path

/-!
# Targets of links

A link holds a path, and also how its text ends. A slash or a point behind the last name says that
the name must be one of a directory; a walk sees them as one more name.
-/

namespace BackupLocator

/-- What the text of a path has behind its last name. -/
inductive Ending where
  | bare
  | slash
  | point
  deriving DecidableEq, Repr

namespace Ending

/-- The name that a slash at the end of a path is followed by. -/
def slashName : String := ""

/-- The name of a directory in itself. -/
def pointName : String := "."

/-- How a text ends. A slash behind a point adds nothing to it. -/
def ofText (s : String) : Ending :=
  let pieces := Text.pieces '/' s.toList
  if (pieces.filter (· ≠ [])).getLast? = some pointName.toList then .point
  else if pieces.length ≠ 1 ∧ pieces.getLast? = some [] then .slash
  else .bare

/-- The names that an ending adds to those of its path. -/
def names : Ending → List String
  | .bare => []
  | .slash => [slashName]
  | .point => [pointName]

/-- Whether a name stays at the directory that it is looked up in. -/
def isStay (name : String) : Bool := name = slashName || name = pointName

end Ending

/-- Where a link leads. -/
structure Target where
  path : Path
  ending : Ending
  deriving DecidableEq

namespace Target

/-- The target that a text names. -/
def ofText (s : String) : Target := ⟨.ofText s, .ofText s⟩

/-- The names that lead to a target. -/
def names (t : Target) : List String := t.path.parts ++ t.ending.names

end Target

end BackupLocator
