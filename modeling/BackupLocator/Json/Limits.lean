import BackupLocator.Json

/-!
# Values that a report can hold

A report holds whole numbers of 64 bits, signed or not, and values that are not nested too deep.
-/

namespace BackupLocator.Json

mutual

/-- How deep arrays and objects are nested. -/
def depth : Json → Nat
  | .arr items => depthOfItems items + 1
  | .obj fields => depthOfFields fields + 1
  | _ => 0

/-- The greatest depth of some items. -/
def depthOfItems : List Json → Nat
  | [] => 0
  | v :: vs => max (depth v) (depthOfItems vs)

/-- The greatest depth of the values of some fields. -/
def depthOfFields : List (String × Json) → Nat
  | [] => 0
  | (_, v) :: fs => max (depth v) (depthOfFields fs)

end

theorem depthOfItems_le_iff {vs : List Json} {n : Nat} :
    depthOfItems vs ≤ n ↔ ∀ v ∈ vs, v.depth ≤ n := by
  induction vs with
  | nil => simp [depthOfItems]
  | cons v vs ih => simp only [depthOfItems, Nat.max_le, ih, List.forall_mem_cons]

theorem depthOfFields_le_iff {fs : List (String × Json)} {n : Nat} :
    depthOfFields fs ≤ n ↔ ∀ f ∈ fs, f.2.depth ≤ n := by
  induction fs with
  | nil => simp [depthOfFields]
  | cons f fs ih => simp only [depthOfFields, Nat.max_le, ih, List.forall_mem_cons]

mutual

/-- Whether every whole number has 64 bits at most. -/
def hasShortNumbers : Json → Bool
  | .int n => -0x8000000000000000 ≤ n && n ≤ 0xFFFFFFFFFFFFFFFF
  | .arr items => haveShortNumbers items
  | .obj fields => haveShortValues fields
  | _ => true

/-- Whether every whole number in some items has 64 bits at most. -/
def haveShortNumbers : List Json → Bool
  | [] => true
  | v :: vs => hasShortNumbers v && haveShortNumbers vs

/-- Whether every whole number in some fields has 64 bits at most. -/
def haveShortValues : List (String × Json) → Bool
  | [] => true
  | (_, v) :: fs => hasShortNumbers v && haveShortValues fs

end

/-- The greatest depth of a value in a report. -/
def depthLimit : Nat := 254

/-- Whether a report can hold a value. -/
def isReportable (v : Json) : Bool := v.hasShortNumbers && v.depth ≤ depthLimit

end BackupLocator.Json
