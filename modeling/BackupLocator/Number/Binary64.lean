/-!
# Binary floating-point numbers of 64 bits

A number is kept as its bits. Everything that is asked of it is computed exactly, on the integers
`m` and `q` with value `m * 2 ^ q`: how it compares with an integer, and which decimal with the
fewest digits reads back to it.
-/

namespace BackupLocator

/-- A binary floating-point number, as its 64 bits. -/
structure Binary64 where
  bits : UInt64
  deriving DecidableEq, Repr, Inhabited

namespace Binary64

/-- The number that is no number. -/
def nan : Binary64 := ⟨0x7FF8000000000000⟩

/-- The same number with its sign bit set or not. -/
def withSign (negative : Bool) (x : Binary64) : Binary64 :=
  if negative then ⟨x.bits ||| 0x8000000000000000⟩ else ⟨x.bits &&& 0x7FFFFFFFFFFFFFFF⟩

/-- One of the two infinities. -/
def infinity (negative : Bool) : Binary64 := withSign negative ⟨0x7FF0000000000000⟩

/-- The number nearest to `± digits * 10 ^ exponent`, ties to even. A value out of range is
settled by its number of digits, so that no huge power is computed. -/
def ofDecimal (negative : Bool) (digits : Nat) (exponent : Int) : Binary64 :=
  let size := (Nat.toDigits 10 digits).length + exponent
  let x : Binary64 :=
    if digits = 0 ∨ size < -400 then ⟨0⟩
    else if 400 < size then infinity false
    else ⟨(Float.ofScientific digits (exponent < 0) exponent.natAbs).toBits⟩
  withSign negative x

/-- Whether the sign bit is set. -/
def isNegative (x : Binary64) : Bool := x.bits >>> 63 != 0

/-- The eleven bits of the exponent. -/
def biased (x : Binary64) : Nat := ((x.bits >>> 52) &&& 0x7FF).toNat

/-- The 52 bits of the fraction. -/
def fraction (x : Binary64) : Nat := (x.bits &&& 0xFFFFFFFFFFFFF).toNat

def isNaN (x : Binary64) : Bool := x.biased == 0x7FF && x.fraction != 0

def isInfinite (x : Binary64) : Bool := x.biased == 0x7FF && x.fraction == 0

def isZero (x : Binary64) : Bool := x.biased == 0 && x.fraction == 0

/-- The integer `m` of a finite value `± m * 2 ^ q`: the fraction, below a leading one where the
number is not too small for it. -/
def significand (x : Binary64) : Nat :=
  if x.biased = 0 then x.fraction else 0x10000000000000 + x.fraction

/-- The integer `q` of a finite value `± m * 2 ^ q`. -/
def exponent (x : Binary64) : Int :=
  if x.biased = 0 then -1074 else (x.biased : Int) - 1075

/-- The power of a base by the positive part of an exponent. -/
def power (base : Nat) (e : Int) : Nat := base.pow e.toNat

/-- How a number compares with an integer; `none` for what is no number. -/
def compareInt (x : Binary64) (n : Int) : Option Ordering :=
  if x.isNaN then none
  else if x.isInfinite then some (if x.isNegative then .lt else .gt)
  else
    let m : Int := if x.isNegative then -x.significand else x.significand
    some (compare (m * power 2 x.exponent) (n * power 2 (-x.exponent)))

/-! ## The fewest digits -/

/-- How `a * 10 ^ i` compares with `n * 2 ^ j`. -/
def compareScaled (a : Nat) (i : Int) (n : Nat) (j : Int) : Ordering :=
  compare (a * power 10 i * power 2 (-j)) (n * power 2 j * power 10 (-i))

/-- Whether `d * 10 ^ e` lies among the reals that round to the absolute value of `x`: between
the midpoints to its two neighbours, the midpoints themselves only if `m` is even. -/
def readsBack (x : Binary64) (d : Nat) (e : Int) : Bool :=
  let m := x.significand
  let below := if x.fraction = 0 ∧ 1 < x.biased then 4 * m - 1 else 4 * m - 2
  let low := compareScaled d e below (x.exponent - 2)
  let high := compareScaled d e (4 * m + 2) (x.exponent - 2)
  let even := m % 2 = 0
  (low == .gt || (even && low == .eq)) && (high == .lt || (even && high == .eq))

/-- The least `k`, near an estimate by the binary logarithm, with `m * 2 ^ q < 10 ^ k`. -/
def decimalScale (x : Binary64) : Int :=
  let estimate : Int := (x.significand.log2 + x.exponent) * 30103 / 100000
  if compareScaled 1 estimate x.significand x.exponent == .gt then estimate
  else if compareScaled 1 (estimate + 1) x.significand x.exponent == .gt then estimate + 1
  else estimate + 2

/-- A quotient rounded to the nearest whole number, and to the even one on a tie. -/
def roundQuotient (num den : Nat) : Nat :=
  let d := num / den
  match compare (2 * num) ((2 * d + 1) * den) with
  | .lt => d
  | .gt => d + 1
  | .eq => if d % 2 = 0 then d else d + 1

/-- Numerator and denominator of the absolute value of `x` in units of `10 ^ e`. -/
def inUnits (x : Binary64) (e : Int) : Nat × Nat :=
  (x.significand * power 2 x.exponent * power 10 (-e), power 2 (-x.exponent) * power 10 e)

/-- The decimal of `count` digits that reads back to `x`, if there is one: of the two next to the
value the nearer, and the even one on a tie. -/
def withDigits? (x : Binary64) (count : Nat) : Option (Nat × Int) :=
  let e := x.decimalScale - count
  let (num, den) := x.inUnits e
  let d := num / den
  match x.readsBack d e, x.readsBack (d + 1) e with
  | true, true => some (roundQuotient num den, e)
  | true, false => some (d, e)
  | false, true => some (d + 1, e)
  | false, false => none

/-- Moves trailing zeros of the digits into the exponent, at most `fuel` of them. -/
def stripZeros : Nat → Nat → Int → Nat × Int
  | 0, d, e => (d, e)
  | fuel + 1, d, e => if d ≠ 0 ∧ d % 10 = 0 then stripZeros fuel (d / 10) (e + 1) else (d, e)

/-- The decimal with the fewest digits that reads back to the absolute value of `x`. Seventeen
digits always suffice; were they not to, the exact value is taken. -/
def shortest (x : Binary64) : Nat × Int :=
  if x.isZero then (0, 0) else
  match (List.range 17).findSome? fun i => x.withDigits? (i + 1) with
  | some (d, e) => stripZeros 20 d e
  | none => (x.significand * power 2 x.exponent * power 5 (-x.exponent), min x.exponent 0)

/-! ## A given number of digits -/

/-- The absolute value of a number in units of `10 ^ (-places)`, rounded. -/
def withPlaces (x : Binary64) (places : Nat) : Nat :=
  let (num, den) := x.inUnits (-places)
  roundQuotient num den

/-- The decimal of `count` digits nearest to the absolute value of a number that is not zero. -/
def nearest (x : Binary64) (count : Nat) : Nat × Int :=
  let e := x.decimalScale - count
  let (num, den) := x.inUnits e
  let d := roundQuotient num den
  if d < power 10 count then (d, e) else (d / 10, e + 1)

/-- A hundred times a number, rounded to the nearest one. -/
def hundredfold (x : Binary64) : Binary64 := ⟨(Float.ofBits x.bits * 100.0).toBits⟩

end Binary64

/-- How a floating-point number is laid out: where positional writing begins and ends, by the
exponent of the leading digit, and how many digits an exponent has at least. -/
structure FloatLayout where
  plainFrom : Int
  plainBelow : Int
  exponentWidth : Nat

namespace FloatLayout

/-- Positional from 0.0001 up to below 10^16, and exponents of two digits. -/
def plain : FloatLayout := ⟨-4, 16, 2⟩

/-- Positional from 0.00001 up to below 10^16, and exponents as short as they are. -/
def compact : FloatLayout := ⟨-5, 16, 1⟩

/-- The text of an exponent, with its sign. -/
def exponentText (f : FloatLayout) (x : Int) : List Char :=
  let digits := Nat.toDigits 10 x.natAbs
  let zeros := List.replicate (f.exponentWidth - digits.length) '0'
  'e' :: (if x < 0 then '-' else '+') :: zeros ++ digits

/-- The text of the absolute value of a finite number. A whole number keeps one zero behind its
point. -/
def magnitude (f : FloatLayout) (x : Binary64) : List Char :=
  let (d, e) := x.shortest
  let digits := Nat.toDigits 10 d
  let lead := e + digits.length - 1
  if f.plainFrom ≤ lead ∧ lead < f.plainBelow then
    if lead < 0 then
      ['0', '.'] ++ List.replicate (-lead - 1).toNat '0' ++ digits
    else
      let whole := digits.take (lead + 1).toNat
      let behind := digits.drop (lead + 1).toNat
      whole ++ List.replicate ((lead + 1).toNat - whole.length) '0' ++ '.' ::
        (if behind.isEmpty then ['0'] else behind)
  else
    match digits with
    | [one] => one :: f.exponentText lead
    | one :: others => one :: '.' :: others ++ f.exponentText lead
    | [] => []

/-- The text of a finite number. -/
def finite (f : FloatLayout) (x : Binary64) : List Char :=
  if x.isNegative then '-' :: f.magnitude x else f.magnitude x

/-- The text of any number, with `nan` and `inf` for the values that are not finite. -/
def text (f : FloatLayout) (x : Binary64) : List Char :=
  if x.isNaN then "nan".toList
  else if x.isInfinite then (if x.isNegative then "-inf".toList else "inf".toList)
  else f.finite x

end FloatLayout

end BackupLocator
