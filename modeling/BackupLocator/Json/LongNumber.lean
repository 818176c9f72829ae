import BackupLocator.Json.Reader
import BackupLocator.Json.Writer
import BackupLocator.Text.Cut

/-!
# Whole numbers that are too long

A whole number has as many digits as may be written as it has that may be read. Writing a value
stops in front of the first number that has too many, and what is written up to there stays.
-/

namespace BackupLocator.Json

/-- Whether a whole number has too many digits. -/
def isLong (n : Int) : Bool := digitLimit < (Nat.toDigits 10 n.natAbs).length

mutual

/-- A value with null in the place of each whole number that is too long. -/
def shortened : Json → Json
  | .int n => if isLong n then .null else .int n
  | .arr items => .arr (shortenedItems items)
  | .obj fields => .obj (shortenedFields fields)
  | v => v

/-- Some items with null in the place of each whole number that is too long. -/
def shortenedItems : List Json → List Json
  | [] => []
  | v :: vs => shortened v :: shortenedItems vs

/-- Some fields with null in the place of each whole number that is too long. -/
def shortenedFields : List (String × Json) → List (String × Json)
  | [] => []
  | (k, v) :: fs => (k, shortened v) :: shortenedFields fs

end

/-- Whether all of a value can be written. -/
def isWritable (v : Json) : Bool := v.shortened = v

/-- The text of a value up to the first whole number that is too long. -/
def renderStart (style : Style) (v : Json) : String :=
  String.ofList (Text.commonStart (write style 0 v) (write style 0 v.shortened))

theorem renderStart_of_isWritable {style : Style} {v : Json} (h : v.isWritable = true) :
    renderStart style v = render style v := by
  have hv : v.shortened = v := of_decide_eq_true h
  rw [renderStart, hv, Text.commonStart_self, render]

end BackupLocator.Json
