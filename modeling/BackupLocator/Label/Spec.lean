import BackupLocator.Text.DecimalDigit

/-!
# Specifications

A specification says how a value is shown: how wide it is at least, how it is placed and what
fills the room, when a number has a sign, how its digits are grouped, how many digits or characters
are shown, and in which form:
`[[fill]align][sign][z][#][0][width][grouping][.limit][form]`.
-/

namespace BackupLocator.Label

/-- Where a value is placed in its room. -/
inductive Alignment where
  | left
  | right
  | center
  /-- The room is between the sign of a number and its digits. -/
  | inner
  deriving DecidableEq, Repr

/-- A specification. What is not said is `none`. -/
structure Spec where
  fill : Option Char
  alignment : Option Alignment
  sign : Option Char
  /-- A zero has no sign. -/
  plainZero : Bool
  /-- The base of a whole number is marked, and a point is never left out. -/
  alternate : Bool
  /-- The room is filled with zeros. -/
  zeroFilled : Bool
  width : Option Nat
  grouping : Option Char
  limit : Option Nat
  form : Option Char
  deriving DecidableEq, Repr

namespace Spec

/-- The greatest number that a width, a limit or a position may be. -/
def greatestNumber : Nat := 0x7FFFFFFFFFFFFFFF

/-- The alignment that a character stands for. -/
def alignment? : Char → Option Alignment
  | '<' => some .left
  | '>' => some .right
  | '^' => some .center
  | '=' => some .inner
  | _ => none

/-- The fill character and the alignment at the beginning of a specification. -/
def readAlignment : List Char → Option Char × Option Alignment × List Char
  | [] => (none, none, [])
  | [c] =>
    match alignment? c with
    | some a => (none, some a, [])
    | none => (none, none, [c])
  | c :: d :: s =>
    match alignment? d, alignment? c with
    | some a, _ => (some c, some a, s)
    | none, some a => (none, some a, d :: s)
    | none, none => (none, none, c :: d :: s)

/-- The character at the beginning of a text, if it is one of some. -/
def readOne (cs : List Char) : List Char → Option Char × List Char
  | [] => (none, [])
  | c :: s => if c ∈ cs then (some c, s) else (none, c :: s)

/-- The number that the decimal digits at the beginning of a text make; `none` where there is no
digit. -/
def readNumber (s : List Char) : Option Nat × List Char :=
  let digits := s.takeWhile fun c => (Text.digitValue? c).isSome
  let rest := s.dropWhile fun c => (Text.digitValue? c).isSome
  if digits.isEmpty then (none, s)
  else (some (digits.foldl (fun n c => n * 10 + (Text.digitValue? c).getD 0) 0), rest)

/-- The limit, if a point follows; there must be a number behind the point. -/
def readLimit : List Char → Option (Option Nat × List Char)
  | '.' :: s =>
    match readNumber s with
    | (some n, rest) => some (some n, rest)
    | (none, _) => none
  | s => some (none, s)

/-- The form at the end of a specification. -/
def readForm : List Char → Option (Option Char)
  | [] => some none
  | [c] => some (some c)
  | _ => none

/-- The specification that a text stands for. -/
def read? (s : List Char) : Option Spec := do
  let (fill, alignment, s) := readAlignment s
  let (sign, s) := readOne ['+', '-', ' '] s
  let (plainZero, s) := readOne ['z'] s
  let (alternate, s) := readOne ['#'] s
  let (zero, s) := if fill.isNone then readOne ['0'] s else (none, s)
  let (width, s) := readNumber s
  let (grouping, s) := readOne [',', '_'] s
  let (limit, s) ← readLimit s
  let form ← readForm s
  guard (width.getD 0 ≤ greatestNumber ∧ limit.getD 0 ≤ greatestNumber)
  return {
    fill, alignment, sign
    plainZero := plainZero.isSome
    alternate := alternate.isSome
    zeroFilled := zero.isSome
    width, grouping, limit, form
  }

/-- The character that fills the room. -/
def filling (spec : Spec) : Char := spec.fill.getD (if spec.zeroFilled then '0' else ' ')

/-- The room to the left and to the right of what takes `length` characters. -/
def room (spec : Spec) (alignment : Alignment) (length : Nat) : Nat × Nat :=
  let free := spec.width.getD 0 - length
  let before := match alignment with
    | .left => 0
    | .center => free / 2
    | .right => free
    | .inner => free
  (before, free - before)

/-! ## Texts -/

/-- Whether a specification says nothing that only holds of numbers. -/
def isForTexts (spec : Spec) : Bool :=
  spec.sign.isNone && !spec.plainZero && !spec.alternate && spec.grouping.isNone &&
    spec.alignment ≠ some .inner && (spec.form.isNone || spec.form = some 's')

/-- A text as a specification wants it; `none` if the specification is not one for texts. -/
def layText? (spec : Spec) (s : List Char) : Option (List Char) :=
  if spec.isForTexts then
    let kept := match spec.limit with
      | some n => s.take n
      | none => s
    let (before, behind) := spec.room (spec.alignment.getD .left) kept.length
    some (List.replicate before spec.filling ++ kept ++ List.replicate behind spec.filling)
  else none

end Spec

end BackupLocator.Label
