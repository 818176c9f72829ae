import BackupLocator.Number.Binary64

/-!
# Numbers of a wanted precision

A number is written with a wanted number of digits, either behind its point or in all, and with an
exponent or without. What is written is kept in two parts, for the digits before the point may be
grouped later.
-/

namespace BackupLocator

/-- The digits of a number before its point, and all that follows them. -/
structure DecimalText where
  whole : List Char
  behind : List Char
  deriving DecidableEq, Repr

namespace DecimalText

/-- The digits of a number, of which `point` stand before its point. -/
structure Digits where
  digits : List Char
  point : Int
  deriving DecidableEq, Repr

namespace Digits

/-- The digits of `d * 10 ^ e`. -/
def ofDecimal (d : Nat) (e : Int) : Digits :=
  let digits := Nat.toDigits 10 d
  ⟨digits, digits.length + e⟩

/-- The digits before the point, at least a zero. -/
def whole (d : Digits) : List Char :=
  if d.point ≤ 0 then ['0']
  else d.digits.take d.point.toNat ++ List.replicate (d.point.toNat - d.digits.length) '0'

/-- The digits behind the point, at least `places` of them. -/
def fraction (d : Digits) (places : Nat) : List Char :=
  let ds :=
    if d.point ≤ 0 then List.replicate (-d.point).toNat '0' ++ d.digits
    else d.digits.drop d.point.toNat
  ds ++ List.replicate (places - ds.length) '0'

/-- The same number with its point behind the first digit. -/
def leading (d : Digits) : Digits := { d with point := 1 }

/-- The digits of a number up to the last that is not zero. -/
def stripped (d : Digits) : Digits :=
  let kept := (d.digits.reverse.dropWhile (· = '0')).reverse
  { d with digits := if kept.isEmpty then ['0'] else kept }

end Digits

/-- The digits of the absolute value of a number, rounded to `count` of them. -/
def rounded (x : Binary64) (count : Nat) : Digits :=
  if x.isZero then ⟨List.replicate count '0', 1⟩
  else
    let (d, e) := x.nearest count
    .ofDecimal d e

/-- A fraction behind its point. Without digits the point stands only if `keepPoint` holds. -/
def pointed (keepPoint : Bool) (fraction : List Char) : List Char :=
  if fraction.isEmpty && !keepPoint then [] else '.' :: fraction

/-- A number with `places` digits behind its point. -/
def fixed (x : Binary64) (places : Nat) (keepPoint : Bool) : DecimalText :=
  let d := Digits.ofDecimal (x.withPlaces places) (-places)
  ⟨d.whole, pointed keepPoint (d.fraction places)⟩

/-- Digits with one of them before the point, and an exponent. -/
def withExponent (d : Digits) (places : Nat) (keepPoint : Bool) : DecimalText :=
  ⟨d.leading.whole,
    pointed keepPoint (d.leading.fraction places) ++ FloatLayout.plain.exponentText (d.point - 1)⟩

/-- A number with an exponent, and `places` digits behind its point. -/
def exponential (x : Binary64) (places : Nat) (keepPoint : Bool) : DecimalText :=
  withExponent (rounded x (places + 1)) places keepPoint

/-- A number with `count` digits in all, or with the fewest that read back. Very small and very
great numbers have an exponent. With `addZero` a number without one has a digit behind its point;
with `keepZeros` its last digits may be zeros. -/
def general (x : Binary64) (count : Option Nat) (addZero keepZeros : Bool) : DecimalText :=
  let d := match count with
    | some n => (rounded x n).stripped
    | none => let (d, e) := x.shortest; .ofDecimal d e
  let limit : Int := match count with
    | some n => if addZero then n - 1 else n
    | none => 16
  let wanted (point : Int) : Nat := match count with
    | some n => if keepZeros then (n - point).toNat else 0
    | none => 0
  if d.point ≤ -4 ∨ limit < d.point then withExponent d (wanted 1) keepZeros
  else ⟨d.whole, pointed keepZeros (d.fraction (max (wanted d.point) (if addZero then 1 else 0)))⟩

end DecimalText

end BackupLocator
