import BackupLocator.Failure
import BackupLocator.Label.Spec
import BackupLocator.Number.DecimalText

/-!
# Numbers in labels

A number is laid out as a sign, a mark of its base, digits that may be grouped, and what follows
them: a fraction, an exponent, a percent sign. Room is filled around them, or between the mark and
the digits.
-/

namespace BackupLocator.Label.Spec

/-- The parts of a written number. -/
structure NumberParts where
  negative : Bool
  /-- What marks the base. -/
  mark : List Char
  digits : List Char
  behind : List Char
  deriving DecidableEq, Repr

/-- The sign of a number. -/
def signText (spec : Spec) (negative : Bool) : List Char :=
  if negative then ['-']
  else match spec.sign with
    | some '+' => ['+']
    | some ' ' => [' ']
    | _ => []

/-- Digits in groups, the last digit first. Zeros are added until there are `least` characters. A
group is never empty. Each step takes a group. -/
def groupFrom (sep : Char) (size : Nat) : Nat → Nat → List Char → List Char
  | 0, _, digits => digits
  | fuel + 1, least, digits =>
    let count := min size (max (max digits.length least) 1)
    let group := digits.take count
    let written := group ++ List.replicate (count - group.length) '0'
    let rest := digits.drop count
    if rest.isEmpty && least - count = 0 then written
    else written ++ sep :: groupFrom sep size fuel (least - count - 1) rest

/-- The number of digits in a group. -/
def groupSize (form : Option Char) : Nat :=
  if form ∈ [some 'b', some 'o', some 'x', some 'X'] then 4 else 3

/-- Digits as they are grouped, at least `least` characters of them. -/
def grouped (spec : Spec) (least : Nat) (digits : List Char) : List Char :=
  match digits, spec.grouping with
  | [], _ => []
  | digits, none => List.replicate (least - digits.length) '0' ++ digits
  | digits, some sep =>
    (groupFrom sep (groupSize spec.form) (digits.length + least) least digits.reverse).reverse

/-- Where a number is placed. -/
def numberAlignment (spec : Spec) : Alignment :=
  spec.alignment.getD (if spec.zeroFilled then .inner else .right)

/-- A number laid out. Zeros that fill the room inside are grouped with its digits. -/
def layNumber (spec : Spec) (parts : NumberParts) : List Char :=
  let sign := spec.signText parts.negative
  let others := sign.length + parts.mark.length + parts.behind.length
  let alignment := spec.numberAlignment
  let least := if spec.filling = '0' ∧ alignment = .inner then spec.width.getD 0 - others else 0
  let digits := spec.grouped least parts.digits
  let (before, behind) := spec.room alignment (others + digits.length)
  let filled (n : Nat) := List.replicate n spec.filling
  let front := sign ++ parts.mark
  (if alignment = .inner then front ++ filled before else filled before ++ front) ++
    digits ++ parts.behind ++ filled behind

/-- Whether the digits of a form may be grouped as a specification says. -/
def isGroupingRight (spec : Spec) : Bool :=
  match spec.grouping, spec.form with
  | none, _ => true
  | _, none => true
  | some sep, some form =>
    ['d', 'e', 'f', 'g', 'E', 'G', '%', 'F'].contains form ||
      (sep = '_' && ['b', 'o', 'x', 'X'].contains form)

/-! ## Floating-point numbers -/

/-- The digits of a finite number in a form; `none` if there is no such form. -/
def decimalText? (spec : Spec) (x : Binary64) : Option DecimalText :=
  let places := spec.limit.getD 6
  let count := max places 1
  match spec.form with
  | some 'e' => some (.exponential x places spec.alternate)
  | some 'E' => some (.exponential x places spec.alternate)
  | some 'f' => some (.fixed x places spec.alternate)
  | some 'F' => some (.fixed x places spec.alternate)
  | some '%' => some (.fixed x places spec.alternate)
  | some 'g' => some (.general x (some count) false spec.alternate)
  | some 'G' => some (.general x (some count) false spec.alternate)
  | some 'n' => some (.general x (some count) false spec.alternate)
  | none => some (.general x (spec.limit.map (max · 1)) true spec.alternate)
  | _ => none

/-- Whether a form is written with capital letters. -/
def isCapital (form : Option Char) : Bool := form ∈ [some 'E', some 'F', some 'G', some 'X']

/-- The greatest limit for floating-point numbers. -/
def greatestLimit : Nat := 0x7FFFFFFF

/-- The digits of a number in a form, or the word for a number that is not finite. -/
def floatText? (spec : Spec) (x : Binary64) : Option DecimalText :=
  (spec.decimalText? (if x.isNaN || x.isInfinite then ⟨0⟩ else x)).map fun t =>
    if x.isNaN then ⟨[], "nan".toList⟩
    else if x.isInfinite then ⟨[], "inf".toList⟩
    else t

/-- Whether a number is shown as a zero. -/
def showsZero (t : DecimalText) : Bool :=
  (t.whole ++ t.behind.takeWhile (· ≠ 'e')).all fun c => c = '0' || c = '.'

/-- Whether a number is shown with the sign of a negative one. -/
def isShownNegative (spec : Spec) (x : Binary64) (t : DecimalText) : Bool :=
  x.isNegative && !x.isNaN && !(spec.plainZero && !t.whole.isEmpty && showsZero t)

/-- A specification as floating-point numbers read it: a NUL is no form. -/
def withoutNul (spec : Spec) : Spec := { spec with form := spec.form.filter (· ≠ '\x00') }

/-- A floating-point number as a specification wants it. -/
def layFloat (spec : Spec) (x : Binary64) : Except Failure (List Char) :=
  let spec := spec.withoutNul
  let isPercent := spec.form = some '%'
  let x := if isPercent then x.hundredfold else x
  if greatestLimit < spec.limit.getD 0 ∨ !spec.isGroupingRight then .error .malformed
  else match spec.floatText? x with
    | none => .error .malformed
    | some t =>
      let behind := t.behind ++ if isPercent then ['%'] else []
      .ok (spec.layNumber {
        negative := spec.isShownNegative x t
        mark := []
        digits := t.whole
        behind := if isCapital spec.form then behind.map Char.toUpper else behind
      })

/-! ## Whole numbers -/

/-- The base of a form, and what marks it. -/
def base : Option Char → Nat × List Char
  | some 'b' => (2, "0b".toList)
  | some 'o' => (8, "0o".toList)
  | some 'x' => (16, "0x".toList)
  | some 'X' => (16, "0X".toList)
  | _ => (10, [])

/-- The digits of a whole number in a form for whole numbers. -/
def wholeParts (spec : Spec) (n : Int) : NumberParts :=
  let (base, mark) := base spec.form
  let digits := Nat.toDigits base n.natAbs
  {
    negative := n < 0
    mark := if spec.alternate then mark else []
    digits := if isCapital spec.form then digits.map Char.toUpper else digits
    behind := []
  }

/-- The character of a whole number as a specification wants it. -/
def layCodePoint (spec : Spec) (n : Int) : Except Failure (List Char) :=
  if spec.sign.isSome || spec.alternate then .error .malformed
  else if n < 0 ∨ 0x10FFFF < n then .error .outOfBounds
  else .ok (spec.layNumber ⟨false, [], [], [Char.ofNat n.toNat]⟩)

/-- Whether a specification says nothing that only holds of floating-point numbers. -/
def isForWholes (spec : Spec) : Bool :=
  spec.limit.isNone && !spec.plainZero && spec.isGroupingRight

/-- A whole number as a specification wants it, in a form for whole numbers or in one for
floating-point numbers. -/
def layWhole (spec : Spec) (n : Int) : Except Failure (List Char) :=
  let form := spec.form.getD 'd'
  if ['b', 'd', 'n', 'o', 'x', 'X'].contains form then
    if spec.isForWholes then .ok (spec.layNumber (spec.wholeParts n)) else .error .malformed
  else if form = 'c' then
    if spec.isForWholes then spec.layCodePoint n else .error .malformed
  else if ['e', 'E', 'f', 'F', 'g', 'G', '%'].contains form then
    let x := Binary64.ofDecimal (n < 0) n.natAbs 0
    if x.isInfinite then .error .outOfBounds else spec.layFloat x
  else .error .malformed

end BackupLocator.Label.Spec
