import BackupLocator.Text.Blank
import BackupLocator.Text.DecimalDigit

/-!
# Whole numbers

A whole number as a person types it: blanks around it, a sign, and digits of any script, with
single underscores between digits where they help.
-/

namespace BackupLocator.Text.WholeNumber

/-- The most digits that a number may have. -/
def digitLimit : Nat := 4300

/-- Whether a character may stand around a number. The separators U+001C to U+001F may not. -/
def isPadding (c : Char) : Bool :=
  isBlank c && !(0x1C ≤ c.toNat && c.toNat ≤ 0x1F)

/-- The values of digits with single underscores between them. A text begins with a digit, and a
digit follows each underscore. -/
def digits? : List Char → Option (List Nat)
  | [] => none
  | [c] => (digitValue? c).map fun d => [d]
  | c :: '_' :: s =>
    match digitValue? c, digits? s with
    | some d, some ds => some (d :: ds)
    | _, _ => none
  | c :: s =>
    match digitValue? c, digits? s with
    | some d, some ds => some (d :: ds)
    | _, _ => none

/-- The number that digits make. -/
def value (ds : List Nat) : Nat := ds.foldl (fun n d => n * 10 + d) 0

/-- The number that digits in a text make, if they are not too many. -/
def unsigned? (s : List Char) : Option Nat :=
  match digits? s with
  | some ds => if ds.length ≤ digitLimit then some (value ds) else none
  | none => none

/-- The number that a text stands for. -/
def read? (s : List Char) : Option Int :=
  match trim isPadding s with
  | '-' :: ds => (unsigned? ds).map fun n => -(n : Int)
  | '+' :: ds => (unsigned? ds).map fun n => (n : Int)
  | ds => (unsigned? ds).map fun n => (n : Int)

end BackupLocator.Text.WholeNumber
