import BackupLocator.Json
import BackupLocator.Text.HexDigit

/-!
# Reading JSON

A reader of JSON texts. Beyond the standard it takes the numbers `NaN`, `Infinity` and
`-Infinity`. Of two fields of one name the later value counts, at the place of the earlier. A
whole number of more than 4300 digits is refused with a fault of its own, and so are arrays and
objects that are nested too deep.
-/

namespace BackupLocator.Json

/-- Why a text is not read. -/
inductive Fault where
  /-- The text is not JSON. -/
  | notJson
  /-- A whole number has too many digits. -/
  | tooManyDigits
  /-- Arrays and objects are nested too deep. -/
  | tooDeep
  deriving DecidableEq, Repr

/-- The most digits that a whole number may have. -/
def digitLimit : Nat := 4300

/-- The most levels to which arrays and objects may be nested. The number is a measured one: each
level takes one call on a stack of 1000, and the calls around the reader take the other 13. -/
def nestingLimit : Nat := 987

/-- What a step of the reader gives: a result and the text behind it. -/
abbrev Parsed (α : Type) := Except Fault (α × List Char)

/-- The text without the blanks at its beginning. -/
def skipBlanks (s : List Char) : List Char :=
  s.dropWhile fun c => c = ' ' || c = '\t' || c = '\n' || c = '\r'

/-! ## Texts -/

/-- The number that four hexadecimal digits stand for. -/
def hexQuad? (a b c d : Char) : Option Nat :=
  match Text.hexValue? a, Text.hexValue? b, Text.hexValue? c, Text.hexValue? d with
  | some a, some b, some c, some d => some (((a * 16 + b) * 16 + c) * 16 + d)
  | _, _, _, _ => none

/-- The character that a letter behind a backslash stands for. -/
def escaped? : Char → Option Char
  | '"' => some '"'
  | '\\' => some '\\'
  | '/' => some '/'
  | 'b' => some '\x08'
  | 'f' => some '\x0c'
  | 'n' => some '\n'
  | 'r' => some '\r'
  | 't' => some '\t'
  | _ => none

/-- The code points of a text up to its closing quote. Escaped code points may be halves of a
pair. -/
def codePoints : List Char → Parsed (List Nat)
  | '"' :: s => .ok ([], s)
  | '\\' :: 'u' :: a :: b :: c :: d :: s =>
    match hexQuad? a b c d with
    | some n => (codePoints s).map fun (ns, rest) => (n :: ns, rest)
    | none => .error .notJson
  | '\\' :: e :: s =>
    match escaped? e with
    | some c => (codePoints s).map fun (ns, rest) => (c.toNat :: ns, rest)
    | none => .error .notJson
  | c :: s =>
    if c = '\\' ∨ c.toNat < 0x20 then .error .notJson
    else (codePoints s).map fun (ns, rest) => (c.toNat :: ns, rest)
  | [] => .error .notJson

/-- Whether a code point is the first half of a pair. -/
def isHighHalf (n : Nat) : Bool := 0xD800 ≤ n && n < 0xDC00

/-- Whether a code point is the second half of a pair. -/
def isLowHalf (n : Nat) : Bool := 0xDC00 ≤ n && n < 0xE000

/-- The characters of a list of code points. Two halves of a pair make one character. Here, as
everywhere, a text holds Unicode scalar values only, and a lone half is none: it reads as a
replacement character, where a reader with wider texts would keep it. -/
def joinHalves : List Nat → List Char
  | h :: l :: ns =>
    if isHighHalf h && isLowHalf l then
      Char.ofNat (0x10000 + (h - 0xD800) * 0x400 + (l - 0xDC00)) :: joinHalves ns
    else (if isHighHalf h || isLowHalf h then '\ufffd' else Char.ofNat h) :: joinHalves (l :: ns)
  | [n] => [if isHighHalf n || isLowHalf n then '\ufffd' else Char.ofNat n]
  | [] => []

/-- A text, from behind its opening quote. -/
def text (s : List Char) : Parsed String :=
  (codePoints s).map fun (ns, rest) => (String.ofList (joinHalves ns), rest)

/-! ## Numbers -/

/-- The digits at the beginning of a text, and what follows. -/
def digits (s : List Char) : List Char × List Char :=
  (s.takeWhile Char.isDigit, s.dropWhile Char.isDigit)

/-- The value of a run of digits. -/
def digitsValue (ds : List Char) : Nat :=
  ds.foldl (fun n d => n * 10 + (d.toNat - '0'.toNat)) 0

/-- The digits behind a point, if a point and a digit follow. -/
def fractionPart : List Char → List Char × List Char
  | '.' :: s => match digits s with
    | ([], _) => ([], '.' :: s)
    | (ds, rest) => (ds, rest)
  | s => ([], s)

/-- The exponent, if one follows. -/
def exponentPart : List Char → Option Int × List Char
  | e :: s =>
    if e = 'e' ∨ e = 'E' then
      let (negative, t) := match s with
        | '-' :: t => (true, t)
        | '+' :: t => (false, t)
        | t => (false, t)
      match digits t with
      | ([], _) => (none, e :: s)
      | (ds, rest) =>
        (some (if negative then -(digitsValue ds : Int) else digitsValue ds), rest)
    else (none, e :: s)
  | [] => (none, [])

/-- A number without its sign: a zero, or digits that begin with another one, then perhaps a
fraction and an exponent. -/
def number (negative : Bool) (s : List Char) : Parsed Json :=
  let (whole, behind) := match s with
    | '0' :: rest => (['0'], rest)
    | _ => digits s
  if whole.isEmpty then .error .notJson else
  let (frac, behind) := fractionPart behind
  let (exp, behind) := exponentPart behind
  if frac.isEmpty && exp.isNone then
    if digitLimit < whole.length then .error .tooManyDigits
    else
      let n : Int := digitsValue whole
      .ok (.int (if negative then -n else n), behind)
  else
    .ok (.float (.ofDecimal negative (digitsValue (whole ++ frac)) (exp.getD 0 - frac.length)),
      behind)

/-! ## Values -/

/-- The text behind `w`, if the text begins with `w`. -/
def behind? : List Char → List Char → Option (List Char)
  | [], s => some s
  | _, [] => none
  | c :: w, d :: s => if c = d then behind? w s else none

/-- A word that stands for a value. -/
def word (s : List Char) : Parsed Json :=
  if let some rest := behind? "null".toList s then .ok (.null, rest)
  else if let some rest := behind? "true".toList s then .ok (.bool true, rest)
  else if let some rest := behind? "false".toList s then .ok (.bool false, rest)
  else if let some rest := behind? "NaN".toList s then .ok (.float .nan, rest)
  else if let some rest := behind? "Infinity".toList s then .ok (.float (.infinity false), rest)
  else if let some rest := behind? "-Infinity".toList s then .ok (.float (.infinity true), rest)
  else match s with
    | '-' :: rest => number true rest
    | _ => number false s

mutual

/-- A value at the beginning of a text, with arrays and objects nested up to `levels` deep. Each
call spends one unit of fuel. -/
def value : Nat → Nat → List Char → Parsed Json
  | 0, _, _ => .error .notJson
  | fuel + 1, levels, s => match s, levels with
    | '"' :: rest, _ => (text rest).map fun (t, rest) => (.str t, rest)
    | '[' :: _, 0 => .error .tooDeep
    | '[' :: rest, levels + 1 => match skipBlanks rest with
      | ']' :: rest => .ok (.arr [], rest)
      | rest => (items fuel levels rest).map fun (vs, rest) => (.arr vs, rest)
    | '\x7b' :: _, 0 => .error .tooDeep
    | '\x7b' :: rest, levels + 1 => match skipBlanks rest with
      | '\x7d' :: rest => .ok (.obj [], rest)
      | rest => (fields fuel levels [] rest).map fun (fs, rest) => (.obj fs, rest)
    | _, _ => word s

/-- The items of an array, at least one, and its closing bracket. -/
def items : Nat → Nat → List Char → Parsed (List Json)
  | 0, _, _ => .error .notJson
  | fuel + 1, levels, s =>
    match value fuel levels s with
    | .error e => .error e
    | .ok (v, rest) =>
      match skipBlanks rest with
      | ',' :: rest => (items fuel levels (skipBlanks rest)).map fun (vs, rest) => (v :: vs, rest)
      | ']' :: rest => .ok ([v], rest)
      | _ => .error .notJson

/-- The fields of an object, at least one, behind those in `known`, and its closing brace. -/
def fields : Nat → Nat → List (String × Json) → List Char → Parsed (List (String × Json))
  | 0, _, _, _ => .error .notJson
  | fuel + 1, levels, known, '"' :: s =>
    match text s with
    | .error e => .error e
    | .ok (key, rest) =>
      match skipBlanks rest with
      | ':' :: rest =>
        match value fuel levels (skipBlanks rest) with
        | .error e => .error e
        | .ok (v, rest) =>
          match skipBlanks rest with
          | ',' :: rest => fields fuel levels (insert key v known) (skipBlanks rest)
          | '\x7d' :: rest => .ok (insert key v known, rest)
          | _ => .error .notJson
      | _ => .error .notJson
  | _, _, _, _ => .error .notJson

end

/-- The value that a whole text stands for. Two calls at most are spent on one character. -/
def parse (s : List Char) : Except Fault Json := do
  let (v, rest) ← value (2 * s.length + 2) nestingLimit (skipBlanks s)
  if (skipBlanks rest).isEmpty then .ok v else .error .notJson

end BackupLocator.Json
