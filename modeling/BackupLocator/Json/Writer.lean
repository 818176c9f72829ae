import BackupLocator.Json
import BackupLocator.Text.HexDigit

/-!
# Writing JSON

Values are written with each item and field on a line of its own, indented by its depth, or all
on one line. A style says which characters are escaped and how floating-point numbers look.
-/

namespace BackupLocator.Json

/-- The decisions of a written form. -/
structure Style where
  /-- Blanks for each level of depth; `none` keeps all on one line. -/
  indent : Option Nat
  /-- Characters that stand for themselves, but for the quote and the backslash. -/
  shown : Char → Bool
  /-- The text of a floating-point number. -/
  float : Binary64 → List Char

namespace Style

/-- A floating-point number with words for the values that are not finite. -/
def spelledFloat (x : Binary64) : List Char :=
  if x.isNaN then "NaN".toList
  else if x.isInfinite then (if x.isNegative then "-Infinity" else "Infinity").toList
  else FloatLayout.plain.finite x

/-- The form of a configuration file: two blanks of indent, and ASCII only. -/
def file : Style where
  indent := some 2
  shown c := 0x20 ≤ c.toNat && c.toNat < 0x7F
  float := spelledFloat

/-- The form of a report: two blanks of indent, every character but controls as itself, and null
for numbers that are not finite. -/
def report : Style where
  indent := some 2
  shown c := 0x20 ≤ c.toNat
  float x := if x.isNaN || x.isInfinite then "null".toList else FloatLayout.compact.finite x

/-- The form of a message: all on one line. -/
def line : Style where
  indent := none
  shown c := 0x20 ≤ c.toNat
  float := spelledFloat

end Style

/-- A 16-bit unit as an escape. -/
def unitEscape (n : Nat) : List Char := '\\' :: 'u' :: Text.hexDigits 4 n

/-- One character of a written text. -/
def writeChar (shown : Char → Bool) (c : Char) : List Char :=
  if c = '"' then ['\\', '"']
  else if c = '\\' then ['\\', '\\']
  else if shown c then [c]
  else if c = '\n' then ['\\', 'n']
  else if c = '\r' then ['\\', 'r']
  else if c = '\t' then ['\\', 't']
  else if c = '\x0c' then ['\\', 'f']
  else if c = '\x08' then ['\\', 'b']
  else if c.toNat < 0x10000 then unitEscape c.toNat
  else
    let n := c.toNat - 0x10000
    unitEscape (0xD800 + n / 1024) ++ unitEscape (0xDC00 + n % 1024)

/-- A written text, between its quotes. -/
def writeText (shown : Char → Bool) (s : String) : List Char :=
  '"' :: s.toList.flatMap (writeChar shown) ++ ['"']

/-- A written whole number. -/
def writeInt (n : Int) : List Char :=
  if n < 0 then '-' :: Nat.toDigits 10 n.natAbs else Nat.toDigits 10 n.natAbs

/-- The break in front of an item at a depth. -/
def lineBreak (style : Style) (depth : Nat) : List Char :=
  match style.indent with
  | none => []
  | some n => '\n' :: List.replicate (n * depth) ' '

/-- What stands between two items: a comma, and a blank where no line break follows. -/
def comma (style : Style) : List Char :=
  match style.indent with
  | none => [',', ' ']
  | some _ => [',']

mutual

/-- A written value at a depth. -/
def write (style : Style) (depth : Nat) : Json → List Char
  | .null => "null".toList
  | .bool b => (if b then "true" else "false").toList
  | .int n => writeInt n
  | .float x => style.float x
  | .str s => writeText style.shown s
  | .arr [] => ['[', ']']
  | .arr (v :: vs) =>
    '[' :: lineBreak style (depth + 1) ++ write style (depth + 1) v ++
      writeItems style (depth + 1) vs ++ lineBreak style depth ++ [']']
  | .obj [] => ['\x7b', '\x7d']
  | .obj ((k, v) :: fs) =>
    '\x7b' :: lineBreak style (depth + 1) ++ writeText style.shown k ++ [':', ' '] ++
      write style (depth + 1) v ++ writeFields style (depth + 1) fs ++
      lineBreak style depth ++ ['\x7d']

/-- The items of an array behind the first. -/
def writeItems (style : Style) (depth : Nat) : List Json → List Char
  | [] => []
  | v :: vs =>
    comma style ++ lineBreak style depth ++ write style depth v ++ writeItems style depth vs

/-- The fields of an object behind the first. -/
def writeFields (style : Style) (depth : Nat) : List (String × Json) → List Char
  | [] => []
  | (k, v) :: fs =>
    comma style ++ lineBreak style depth ++ writeText style.shown k ++ [':', ' '] ++
      write style depth v ++ writeFields style depth fs

end

/-- The text of a value. -/
def render (style : Style) (v : Json) : String :=
  String.ofList (write style 0 v)

end BackupLocator.Json
