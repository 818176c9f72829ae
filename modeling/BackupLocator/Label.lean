import BackupLocator.Handle
import BackupLocator.Label.Template
import BackupLocator.Platform

/-!
# Labels of handles

What a person is shown for a handle: the description of its volume and its leaf. Characters that
would turn the direction of writing are taken out of the leaf first, so that it cannot pass for
another one.
-/

namespace BackupLocator.Label

/-- Whether a character turns the direction of writing. -/
def isOverride (c : Char) : Bool := c = '\u202d' || c = '\u202e'

/-- A text with the replacement character for each `c`. -/
def replaced (c : Char) (s : String) : String := s.map fun d => if d = c then '\ufffd' else d

/-- A name with a replacement character for each character that turns the direction of writing. -/
def clean (name : String) : String := replaced '\u202e' (replaced '\u202d' name)

/-- The template where none is given: description and name with a blank between them. -/
def defaultTemplate : String := "\x7bdescription\x7d \x7bname\x7d"

/-- The template that is used where one may be given; an empty one is none. -/
def templateOf (template : Option String) : String :=
  (template.filter (· ≠ "")).getD defaultTemplate

/-- The label of a handle: its leaf alone where the volume has no description, and else the
template filled in. -/
def ofHandle (describe : String → Except Failure Json) (template : Option String)
    (handle : String) : Except Failure String := do
  let (volume, leaf) ← Handle.volumeAndLeaf handle
  let name := clean leaf
  match ← describe volume with
  | .null => return name
  | description =>
    Template.fill [("description", description), ("name", .str name)] (templateOf template)

end BackupLocator.Label
